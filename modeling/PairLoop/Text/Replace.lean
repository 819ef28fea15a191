/-!
Replacement of every occurrence of a pattern in a text. Occurrences are found from the left and do
not overlap; what is put in is not searched again.
-/

namespace PairLoop.Text

/-- Replaces the pattern in a text whose first `skip` code points belong to an occurrence that has
been replaced already. -/
def replaceFrom (pattern replacement : List Char) (skip : Nat) : List Char → List Char
  | [] => []
  | char :: rest =>
    match skip with
    | left + 1 => replaceFrom pattern replacement left rest
    | 0 =>
      if pattern.isPrefixOf (char :: rest) then
        replacement ++ replaceFrom pattern replacement (pattern.length - 1) rest
      else char :: replaceFrom pattern replacement 0 rest

def replaceAll (pattern replacement text : List Char) : List Char :=
  replaceFrom pattern replacement 0 text

theorem replace_from_append (pattern replacement front rest : List Char) :
    replaceFrom pattern replacement front.length (front ++ rest) =
      replaceFrom pattern replacement 0 rest := by
  induction front with
  | nil => rfl
  | cons char front induction => exact induction

/-- An occurrence at the beginning is replaced, and the search goes on behind it. -/
theorem replace_all_append (pattern replacement rest : List Char) (present : pattern ≠ []) :
    replaceAll pattern replacement (pattern ++ rest) =
      replacement ++ replaceAll pattern replacement rest := by
  cases pattern with
  | nil => exact absurd rfl present
  | cons char tail =>
    have occurs : (char :: tail).isPrefixOf (char :: (tail ++ rest)) = true :=
      List.isPrefixOf_iff_prefix.2 (List.prefix_append (char :: tail) rest)
    rw [replaceAll, List.cons_append, replaceFrom, if_pos occurs]
    exact congrArg (replacement ++ ·) (replace_from_append (char :: tail) replacement tail rest)

theorem replace_all_cons (pattern replacement : List Char) (char : Char) (rest : List Char)
    (absent : ¬ pattern <+: char :: rest) :
    replaceAll pattern replacement (char :: rest) =
      char :: replaceAll pattern replacement rest := by
  have fails : ¬ pattern.isPrefixOf (char :: rest) = true :=
    fun occurs => absent (List.isPrefixOf_iff_prefix.1 occurs)
  rw [replaceAll, replaceFrom, if_neg fails]
  rfl

end PairLoop.Text
