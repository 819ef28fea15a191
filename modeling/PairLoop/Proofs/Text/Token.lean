import Mathlib.Data.List.Infix
import PairLoop.Fragment.Symbols
import PairLoop.Text.Replace

/-!
Replacement of tokens. A token is a word whose first code point does not come again in it, so two
occurrences never overlap and every one of them is replaced. Where none lies across the border of
two texts, each of the texts is treated on its own. If what is put in carries a mark that no token
has, the marks in the result tell how often the token stood in the text.
-/

namespace PairLoop.Text

/-- A word whose first code point does not come again in it. -/
structure Token where
  head : Char
  tail : List Char
  fresh : head ∉ tail
  isWord : (head :: tail).all Fragment.continuesWord = true

namespace Token

def text (token : Token) : List Char := token.head :: token.tail

variable (token : Token)

theorem text_ne_nil : token.text ≠ [] := List.cons_ne_nil _ _

theorem head_mem : token.head ∈ token.text := List.mem_cons_self

theorem continues_of_mem_text (char : Char) (member : char ∈ token.text) :
    Fragment.continuesWord char = true :=
  List.all_eq_true.1 token.isWord char member

/-- No occurrence of the token lies across the border of two texts. -/
def Uncrossed (first second : List Char) : Prop :=
  ∀ front back, token.text = front ++ back → front ≠ [] → back ≠ [] → front <:+ first →
    ¬ back <+: second

/-- A text is empty, begins with one of two tokens, or begins with a code point where neither
stands. -/
@[elab_as_elim]
theorem pair_induction (other : Token) {motive : List Char → Prop} (nil : motive [])
    (foundOther : ∀ rest, motive rest → motive (other.text ++ rest))
    (found : ∀ rest, motive rest → motive (token.text ++ rest))
    (passed : ∀ char rest, ¬ other.text <+: char :: rest → ¬ token.text <+: char :: rest →
      motive rest → motive (char :: rest))
    (text : List Char) : motive text := by
  -- By length and not by constructors, as an occurrence is passed over at once.
  induction size : text.length using Nat.strongRecOn generalizing text with
  | ind size induction =>
    have shorter : ∀ either : Token, ∀ rest, text = either.text ++ rest → motive rest := by
      intro either rest split
      have positive := List.length_pos_iff.2 either.text_ne_nil
      rw [split, List.length_append] at size
      exact induction rest.length (by omega) rest rfl
    by_cases standsOther : other.text <+: text
    · obtain ⟨rest, rfl⟩ := standsOther
      exact foundOther rest (shorter other rest rfl)
    by_cases stands : token.text <+: text
    · obtain ⟨rest, rfl⟩ := stands
      exact found rest (shorter token rest rfl)
    cases text with
    | nil => exact nil
    | cons char rest =>
      exact passed char rest standsOther stands
        (induction rest.length (by rw [← size, List.length_cons]; omega) rest rfl)

/-- A text is empty, begins with the token, or begins with a code point where the token does not
stand. -/
@[elab_as_elim]
theorem scan_induction {motive : List Char → Prop} (nil : motive [])
    (found : ∀ rest, motive rest → motive (token.text ++ rest))
    (passed : ∀ char rest, ¬ token.text <+: char :: rest → motive rest → motive (char :: rest))
    (text : List Char) : motive text := by
  induction text using token.pair_induction token with
  | nil => exact nil
  | foundOther rest induction => exact found rest induction
  | found rest induction => exact found rest induction
  | passed char rest absent _ induction => exact passed char rest absent induction

theorem head_mem_of_front (front back : List Char) (split : token.text = front ++ back)
    (present : front ≠ []) : token.head ∈ front := by
  cases front with
  | nil => exact absurd rfl present
  | cons char front =>
    rw [text, List.cons_append, List.cons.injEq] at split
    rw [split.1]
    exact List.mem_cons_self

theorem head_eq_of_begins (char : Char) (rest : List Char) (stands : token.text <+: char :: rest) :
    token.head = char :=
  (List.cons_prefix_cons.1 stands).1

theorem prefix_append_iff (first second : List Char) (uncrossed : token.Uncrossed first second)
    (present : first ≠ []) : token.text <+: first ++ second ↔ token.text <+: first := by
  constructor
  · intro stands
    obtain ⟨behind, split⟩ := stands
    rcases List.append_eq_append_iff.1 split with ⟨more, inside, _⟩ | ⟨more, across, rest⟩
    · exact ⟨more, inside.symm⟩
    -- Here the token would begin in the first text and go on in the second.
    · cases more with
      | nil => exact ⟨[], by rw [across, List.append_nil, List.append_nil]⟩
      | cons char more =>
        have begins : char :: more <+: second := ⟨behind, rest.symm⟩
        have never := uncrossed first _ across present (List.cons_ne_nil _ _) List.suffix_rfl
        exact absurd begins never
  · intro stands
    exact stands.trans (List.prefix_append first second)

theorem uncrossed_of_suffix (front first second : List Char)
    (uncrossed : token.Uncrossed (front ++ first) second) : token.Uncrossed first second := by
  intro left right split leftPresent rightPresent suffix
  exact uncrossed left right split leftPresent rightPresent
    (suffix.trans (List.suffix_append front first))

/-- An occurrence in two texts lies in one of them. -/
theorem occurrence_in_append (first second before after : List Char)
    (uncrossed : token.Uncrossed first second)
    (split : first ++ second = before ++ (token.text ++ after)) :
    (∃ more, first = before ++ (token.text ++ more) ∧ after = more ++ second) ∨
      ∃ more, before = first ++ more ∧ second = more ++ (token.text ++ after) := by
  rcases List.append_eq_append_iff.1 split with ⟨more, inSecond, rest⟩ | ⟨more, inFirst, rest⟩
  · exact .inr ⟨more, inSecond, rest⟩
  · by_cases nothing : more = []
    · subst nothing
      exact .inr ⟨[], by simpa using inFirst.symm, by simpa using rest.symm⟩
    · have begins : token.text <+: more ++ second := ⟨after, rest⟩
      have within := uncrossed_of_suffix token before more second (inFirst ▸ uncrossed)
      obtain ⟨behind, inside⟩ := (token.prefix_append_iff more second within nothing).1 begins
      rw [← inside, List.append_assoc, List.append_cancel_left_eq] at rest
      exact .inl ⟨behind, by rw [inFirst, inside], rest⟩

theorem uncrossed_of_head_not_mem_first (first second : List Char)
    (absent : token.head ∉ first) : token.Uncrossed first second := by
  intro front back split frontPresent _ suffix _
  exact absent (suffix.subset (token.head_mem_of_front front back split frontPresent))

theorem uncrossed_of_first_not_mem_text (first rest : List Char) (char : Char)
    (absent : char ∉ token.text) : token.Uncrossed first (char :: rest) := by
  intro front back split _ backPresent _ begins
  cases back with
  | nil => exact absurd rfl backPresent
  | cons other back =>
    have same := (List.cons_prefix_cons.1 begins).1
    rw [split, same] at absent
    exact absent (List.mem_append_right front List.mem_cons_self)

section Replacement

variable (replacement : List Char)

/-- Puts a replacement in for every occurrence of the token. -/
def replace (text : List Char) : List Char := replaceAll token.text replacement text

theorem replace_nil : token.replace replacement [] = [] := rfl

theorem replace_occurrence (rest : List Char) :
    token.replace replacement (token.text ++ rest) =
      replacement ++ token.replace replacement rest :=
  replace_all_append token.text replacement rest token.text_ne_nil

theorem replace_cons (char : Char) (rest : List Char) (absent : ¬ token.text <+: char :: rest) :
    token.replace replacement (char :: rest) = char :: token.replace replacement rest :=
  replace_all_cons token.text replacement char rest absent

theorem replace_append (first second : List Char) (uncrossed : token.Uncrossed first second) :
    token.replace replacement (first ++ second) =
      token.replace replacement first ++ token.replace replacement second := by
  induction first using token.scan_induction with
  | nil => rfl
  | found rest induction =>
    rw [List.append_assoc, replace_occurrence, replace_occurrence, List.append_assoc,
      induction (token.uncrossed_of_suffix token.text rest second uncrossed)]
  | passed char rest absent induction =>
    have still := mt (token.prefix_append_iff _ second uncrossed (List.cons_ne_nil _ _)).1 absent
    rw [List.cons_append] at still ⊢
    rw [replace_cons _ _ _ _ still, replace_cons _ _ _ _ absent, List.cons_append,
      induction (token.uncrossed_of_suffix [char] rest second uncrossed)]

theorem replace_of_absent (text : List Char) (absent : token.head ∉ text) :
    token.replace replacement text = text := by
  induction text with
  | nil => rfl
  | cons char rest induction =>
    rw [List.mem_cons, not_or] at absent
    rw [replace_cons, induction absent.2]
    exact fun stands => absent.1 (token.head_eq_of_begins char rest stands)

/-- A code point that the token lacks divides the text. -/
theorem replace_separator (first rest : List Char) (char : Char) (absent : char ∉ token.text) :
    token.replace replacement (first ++ char :: rest) =
      token.replace replacement first ++ char :: token.replace replacement rest := by
  rw [replace_append _ _ _ _ (token.uncrossed_of_first_not_mem_text first rest char absent),
    replace_cons]
  intro stands
  exact absent (token.head_eq_of_begins char rest stands ▸ token.head_mem)

end Replacement

/-- The number of places at which the token stands in a text. -/
def occurrences : List Char → Nat
  | [] => 0
  | char :: rest => (if token.text.isPrefixOf (char :: rest) then 1 else 0) + occurrences rest

theorem occurrences_cons (char : Char) (rest : List Char) (absent : ¬ token.text <+: char :: rest) :
    token.occurrences (char :: rest) = token.occurrences rest := by
  rw [occurrences, if_neg (mt List.isPrefixOf_iff_prefix.1 absent), Nat.zero_add]

theorem occurrences_of_absent (text : List Char) (absent : token.head ∉ text) :
    token.occurrences text = 0 := by
  induction text with
  | nil => rfl
  | cons char rest induction =>
    rw [List.mem_cons, not_or] at absent
    rw [occurrences_cons, induction absent.2]
    exact fun stands => absent.1 (token.head_eq_of_begins char rest stands)

theorem occurrences_append (first second : List Char) (uncrossed : token.Uncrossed first second) :
    token.occurrences (first ++ second) = token.occurrences first + token.occurrences second := by
  induction first with
  | nil => simp [occurrences]
  | cons char rest induction =>
    have same : token.text.isPrefixOf (char :: (rest ++ second)) =
        token.text.isPrefixOf (char :: rest) := by
      rw [Bool.eq_iff_iff, List.isPrefixOf_iff_prefix, List.isPrefixOf_iff_prefix]
      exact token.prefix_append_iff (char :: rest) second uncrossed (List.cons_ne_nil _ _)
    rw [List.cons_append, occurrences, occurrences, same, Nat.add_assoc,
      induction (token.uncrossed_of_suffix [char] rest second uncrossed)]

theorem occurrences_occurrence (rest : List Char) :
    token.occurrences (token.text ++ rest) = token.occurrences rest + 1 := by
  have stands : token.text.isPrefixOf (token.head :: (token.tail ++ rest)) = true :=
    List.isPrefixOf_iff_prefix.2 (List.prefix_append token.text rest)
  -- The head is not in the tail, so the next occurrence begins behind this one.
  have behind : token.occurrences (token.tail ++ rest) = token.occurrences rest := by
    rw [occurrences_append _ _ _ (token.uncrossed_of_head_not_mem_first _ rest token.fresh),
      token.occurrences_of_absent token.tail token.fresh, Nat.zero_add]
  have split : token.text ++ rest = token.head :: (token.tail ++ rest) := rfl
  rw [split, occurrences, if_pos stands, behind, Nat.add_comm]

theorem le_occurrences_append (first second : List Char) :
    token.occurrences first + token.occurrences second ≤ token.occurrences (first ++ second) := by
  induction first with
  | nil => simp [occurrences]
  | cons char rest induction =>
    rw [List.cons_append, occurrences, occurrences]
    by_cases stands : token.text <+: char :: rest
    · have longer : token.text <+: char :: (rest ++ second) :=
        stands.trans (List.prefix_append (char :: rest) second)
      rw [if_pos (List.isPrefixOf_iff_prefix.2 stands),
        if_pos (List.isPrefixOf_iff_prefix.2 longer)]
      omega
    · rw [if_neg (mt List.isPrefixOf_iff_prefix.1 stands)]
      omega

theorem occurrences_pos_iff (text : List Char) :
    0 < token.occurrences text ↔ token.text <:+: text := by
  constructor
  · intro positive
    induction text with
    | nil => exact absurd positive (Nat.lt_irrefl 0)
    | cons char rest induction =>
      by_cases stands : token.text <+: char :: rest
      · exact stands.isInfix
      · rw [token.occurrences_cons char rest stands] at positive
        exact (induction positive).trans (List.suffix_cons char rest).isInfix
  · intro stands
    obtain ⟨before, after, rfl⟩ := stands
    rw [List.append_assoc]
    have counted := token.le_occurrences_append before (token.text ++ after)
    rw [token.occurrences_occurrence after] at counted
    omega

/-- Every occurrence brings the marks of the replacement into the text. -/
theorem count_replace (replacement : List Char) (mark : Char) (foreign : mark ∉ token.text)
    (text : List Char) :
    (token.replace replacement text).count mark =
      text.count mark + token.occurrences text * replacement.count mark := by
  induction text using token.scan_induction with
  | nil => simp [replace_nil, occurrences]
  | found rest induction =>
    rw [replace_occurrence, occurrences_occurrence, List.count_append, List.count_append, induction,
      List.count_eq_zero_of_not_mem foreign, Nat.add_mul]
    omega
  | passed char rest absent induction =>
    rw [replace_cons _ _ _ _ absent, occurrences_cons _ _ _ absent, List.count_cons,
      List.count_cons, induction]
    omega

end Token

end PairLoop.Text
