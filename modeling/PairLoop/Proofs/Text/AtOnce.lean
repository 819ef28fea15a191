import PairLoop.Proofs.Text.Rewriting

/-!
Replacement of several patterns in one pass. The text is read once from the left, and what is put
in is not read. Two passes for two tokens, one after the other, read what the first has put in as
well. They come to the same exactly if the second token stands no more often after the first pass,
and for every text exactly if no occurrence of it can reach into what the first pass puts in.
-/

namespace PairLoop.Text

/-- Replaces patterns in a text whose first `skip` code points belong to an occurrence that has
been replaced already. Every pattern comes with its replacement, and where several patterns stand
the first of them counts. -/
def replaceEachFrom (rules : List (List Char × List Char)) (skip : Nat) : List Char → List Char
  | [] => []
  | char :: rest =>
    match skip with
    | left + 1 => replaceEachFrom rules left rest
    | 0 =>
      match rules.find? fun rule => rule.1.isPrefixOf (char :: rest) with
      | some rule => rule.2 ++ replaceEachFrom rules (rule.1.length - 1) rest
      | none => char :: replaceEachFrom rules 0 rest

def replaceEach (rules : List (List Char × List Char)) (text : List Char) : List Char :=
  replaceEachFrom rules 0 text

section Pass

variable (rules : List (List Char × List Char))

theorem replace_each_from_append (front rest : List Char) :
    replaceEachFrom rules front.length (front ++ rest) = replaceEachFrom rules 0 rest := by
  induction front with
  | nil => rfl
  | cons char front induction => exact induction

theorem replace_each_found (pattern replacement rest : List Char) (present : pattern ≠ [])
    (found : (rules.find? fun rule => rule.1.isPrefixOf (pattern ++ rest)) =
      some (pattern, replacement)) :
    replaceEach rules (pattern ++ rest) = replacement ++ replaceEach rules rest := by
  cases pattern with
  | nil => exact absurd rfl present
  | cons char tail =>
    rw [List.cons_append] at found
    rw [replaceEach, List.cons_append, replaceEachFrom, found]
    exact congrArg (replacement ++ ·) (replace_each_from_append rules tail rest)

theorem replace_each_passed (char : Char) (rest : List Char)
    (absent : ∀ rule ∈ rules, ¬ rule.1 <+: char :: rest) :
    replaceEach rules (char :: rest) = char :: replaceEach rules rest := by
  have nothing : (rules.find? fun rule => rule.1.isPrefixOf (char :: rest)) = none := by
    apply List.find?_eq_none.2
    intro rule member begins
    exact absent rule member (List.isPrefixOf_iff_prefix.1 begins)
  rw [replaceEach, replaceEachFrom, nothing]
  rfl

end Pass

namespace Token

section Alone

variable (token : Token)

theorem occurrences_of_shorter (part : List Char) (shorter : part.length < token.text.length) :
    token.occurrences part = 0 := by
  apply Nat.eq_zero_of_not_pos
  intro positive
  have stands := (token.occurrences_pos_iff part).1 positive
  exact absurd stands.length_le (Nat.not_le_of_lt shorter)

/-- If a front adds no occurrence, it is passed over as it is. -/
theorem replace_append_of_occurrences (replacement front rest : List Char)
    (equal : token.occurrences (front ++ rest) = token.occurrences rest) :
    token.replace replacement (front ++ rest) = front ++ token.replace replacement rest := by
  induction front with
  | nil => rfl
  | cons char front induction =>
    have behind := token.le_occurrences_append front rest
    rw [List.cons_append] at equal ⊢
    by_cases stands : token.text <+: char :: (front ++ rest)
    · rw [occurrences, if_pos (List.isPrefixOf_iff_prefix.2 stands)] at equal
      omega
    · rw [token.occurrences_cons char _ stands] at equal
      rw [replace_cons _ _ _ _ stands, induction equal]
      rfl

/-- No occurrence of the token reaches into a text, whatever stands around it: the token is not in
it, the text ends in no beginning of the token and begins with no end of it. -/
structure Inert (text : List Char) : Prop where
  absent : ¬ token.text <:+: text
  noBeginning : ∀ front back, token.text = front ++ back → front ≠ [] → back ≠ [] →
    ¬ front <:+ text
  noEnd : ∀ front back, token.text = front ++ back → front ≠ [] → back ≠ [] → ¬ back <+: text

end Alone

section Pair

variable (token other : Token) (separate : Separate token other) (replacement inserted : List Char)

/-- The two replacements in one pass. -/
def replaceBoth (text : List Char) : List Char :=
  replaceEach [(other.text, inserted), (token.text, replacement)] text

theorem replace_both_other (rest : List Char) :
    token.replaceBoth other replacement inserted (other.text ++ rest) =
      inserted ++ token.replaceBoth other replacement inserted rest := by
  have stands : other.text.isPrefixOf (other.text ++ rest) = true :=
    List.isPrefixOf_iff_prefix.2 (List.prefix_append other.text rest)
  apply replace_each_found _ _ _ _ other.text_ne_nil
  simp only [List.find?_cons, stands]

theorem replace_both_passed (char : Char) (rest : List Char)
    (otherAbsent : ¬ other.text <+: char :: rest) (absent : ¬ token.text <+: char :: rest) :
    token.replaceBoth other replacement inserted (char :: rest) =
      char :: token.replaceBoth other replacement inserted rest := by
  apply replace_each_passed
  intro rule member
  simp only [List.mem_cons, List.not_mem_nil, or_false] at member
  rcases member with rfl | rfl
  · exact otherAbsent
  · exact absent

include separate

theorem not_begins_with_other (rest : List Char) : ¬ other.text <+: token.text ++ rest := by
  intro begins
  apply separate.second_head
  rw [other.head_eq_of_begins token.head (token.tail ++ rest) begins]
  exact token.head_mem

theorem replace_both_token (rest : List Char) :
    token.replaceBoth other replacement inserted (token.text ++ rest) =
      replacement ++ token.replaceBoth other replacement inserted rest := by
  have passed : other.text.isPrefixOf (token.text ++ rest) = false :=
    Bool.eq_false_iff.2 fun begins =>
      token.not_begins_with_other other separate rest (List.isPrefixOf_iff_prefix.1 begins)
  have stands : token.text.isPrefixOf (token.text ++ rest) = true :=
    List.isPrefixOf_iff_prefix.2 (List.prefix_append token.text rest)
  apply replace_each_found _ _ _ _ token.text_ne_nil
  simp only [List.find?_cons, passed, stands]

/-- A replacement of the other token leaves an occurrence of this one as it is. -/
theorem replace_other_behind (rest : List Char) :
    other.replace inserted (token.text ++ rest) =
      token.text ++ other.replace inserted rest := by
  rw [other.replace_append inserted token.text rest
      (other.uncrossed_of_head_not_mem_first token.text rest separate.second_head),
    other.replace_of_absent inserted token.text separate.second_head]

/-- No occurrence of the token is lost when the other one is replaced. -/
theorem le_occurrences_replace_other (text : List Char) :
    token.occurrences text ≤ token.occurrences (other.replace inserted text) := by
  induction text using token.pair_induction other with
  | nil => exact Nat.le_refl _
  | foundOther rest induction =>
    have kept := token.le_occurrences_append inserted (other.replace inserted rest)
    rw [token.occurrences_behind_other other separate, replace_occurrence]
    omega
  | found rest induction =>
    rw [token.replace_other_behind other separate, occurrences_occurrence, occurrences_occurrence]
    omega
  | passed char rest otherAbsent absent induction =>
    have kept := token.le_occurrences_append [char] (other.replace inserted rest)
    rw [token.occurrences_cons char rest absent, replace_cons _ _ _ _ otherAbsent]
    rw [List.singleton_append] at kept
    omega

/-- If none comes anew either, one pass for both tokens does the same as two. -/
theorem replace_both_of_occurrences (text : List Char)
    (equal : token.occurrences (other.replace inserted text) = token.occurrences text) :
    token.replace replacement (other.replace inserted text) =
      token.replaceBoth other replacement inserted text := by
  induction text using token.pair_induction other with
  | nil => rfl
  | foundOther rest induction =>
    have kept := token.le_occurrences_append inserted (other.replace inserted rest)
    have below := token.le_occurrences_replace_other other separate inserted rest
    rw [token.occurrences_behind_other other separate, replace_occurrence] at equal
    rw [replace_occurrence, replace_both_other, ← induction (by omega)]
    exact token.replace_append_of_occurrences _ _ _ (by omega)
  | found rest induction =>
    rw [token.replace_other_behind other separate, occurrences_occurrence, occurrences_occurrence,
      Nat.add_right_cancel_iff] at equal
    rw [token.replace_other_behind other separate, replace_occurrence,
      token.replace_both_token other separate, induction equal]
  | passed char rest otherAbsent absent induction =>
    have kept := token.le_occurrences_append [char] (other.replace inserted rest)
    have below := token.le_occurrences_replace_other other separate inserted rest
    rw [token.occurrences_cons char rest absent, replace_cons _ _ _ _ otherAbsent] at equal
    have nothing : token.occurrences ([char] ++ other.replace inserted rest) =
        token.occurrences (other.replace inserted rest) := by
      rw [List.singleton_append] at kept ⊢
      omega
    rw [List.singleton_append] at kept
    rw [replace_cons _ _ _ _ otherAbsent, replace_both_passed _ _ _ _ _ _ otherAbsent absent,
      ← induction (by omega)]
    exact token.replace_append_of_occurrences _ [char] _ nothing

section Marked

variable (mark : Char) (foreign : mark ∉ token.text) (otherForeign : mark ∉ other.text)

include foreign otherForeign in
/-- One pass puts in a replacement for every occurrence in the text that it reads, and no other. -/
theorem count_replace_both (text : List Char) :
    (token.replaceBoth other replacement inserted text).count mark =
      text.count mark + other.occurrences text * inserted.count mark +
        token.occurrences text * replacement.count mark := by
  induction text using token.pair_induction other with
  | nil => simp [replaceBoth, replaceEach, replaceEachFrom, occurrences]
  | foundOther rest induction =>
    rw [replace_both_other, other.occurrences_occurrence,
      token.occurrences_behind_other other separate, List.count_append, List.count_append,
      List.count_eq_zero_of_not_mem otherForeign, induction, Nat.add_mul]
    omega
  | found rest induction =>
    rw [token.replace_both_token other separate, occurrences_occurrence,
      other.occurrences_behind_other token separate.symm, List.count_append, List.count_append,
      List.count_eq_zero_of_not_mem foreign, induction, Nat.add_mul]
    omega
  | passed char rest otherAbsent absent induction =>
    rw [replace_both_passed _ _ _ _ _ _ otherAbsent absent, occurrences_cons _ _ _ absent,
      occurrences_cons _ _ _ otherAbsent, List.count_cons, List.count_cons, induction]
    omega

variable (carried : mark ∈ replacement)

include foreign otherForeign carried in
/-- Two passes do the same as one exactly if the first brings no occurrence in for the second. -/
theorem replace_replace_eq_both_iff (text : List Char) :
    token.replace replacement (other.replace inserted text) =
        token.replaceBoth other replacement inserted text ↔
      token.occurrences (other.replace inserted text) = token.occurrences text := by
  constructor
  · intro same
    have counts := congrArg (List.count mark) same
    rw [token.count_replace replacement mark foreign,
      other.count_replace inserted mark otherForeign,
      token.count_replace_both other separate replacement inserted mark foreign otherForeign,
      Nat.add_left_cancel_iff] at counts
    exact Nat.eq_of_mul_eq_mul_right (List.count_pos_iff.2 carried) counts
  · exact token.replace_both_of_occurrences other separate replacement inserted text

variable (marked : mark ∈ inserted) (inert : token.Inert inserted)

include foreign marked inert

/-- What ends the token stands at the beginning of a text before the other token is replaced if it
stands there afterwards. -/
theorem begins_replace_other_iff (text back : List Char) (ends : back <:+ token.text) :
    back <+: other.replace inserted text ↔ back <+: text := by
  induction text using other.scan_induction generalizing back with
  | nil => rfl
  | found rest induction =>
    cases back with
    | nil => exact iff_of_true List.nil_prefix List.nil_prefix
    | cons char back =>
      have inToken : char ∈ token.text := ends.subset List.mem_cons_self
      obtain ⟨front, split⟩ := ends
      rw [replace_occurrence]
      apply iff_of_false
      · rintro ⟨behind, across⟩
        rcases List.append_eq_append_iff.1 across with ⟨more, inside, _⟩ | ⟨more, whole, _⟩
        · by_cases nothing : front = []
          · subst nothing
            exact inert.absent ⟨[], more, by rw [inside, ← split]; rfl⟩
          · exact inert.noEnd front _ split.symm nothing (List.cons_ne_nil _ _)
              ⟨more, inside.symm⟩
        · apply foreign
          rw [← split, whole]
          exact List.mem_append_right _ (List.mem_append_left _ marked)
      · intro begins
        apply separate.second_head
        rw [(List.cons_prefix_cons.1 begins).1] at inToken
        exact inToken
  | passed char rest otherAbsent induction =>
    rw [replace_cons _ _ _ _ otherAbsent]
    cases back with
    | nil => exact iff_of_true List.nil_prefix List.nil_prefix
    | cons first back =>
      rw [List.cons_prefix_cons, List.cons_prefix_cons,
        induction back ((List.suffix_cons first back).trans ends)]

theorem occurrences_replace_of_inert (text : List Char) :
    token.occurrences (other.replace inserted text) = token.occurrences text := by
  induction text using other.scan_induction with
  | nil => rfl
  | found rest induction =>
    have uncrossed : token.Uncrossed inserted (other.replace inserted rest) :=
      fun front back split frontPresent backPresent suffix _ =>
        inert.noBeginning front back split frontPresent backPresent suffix
    have without : token.occurrences inserted = 0 := by
      apply Nat.eq_zero_of_not_pos
      exact mt (token.occurrences_pos_iff inserted).1 inert.absent
    rw [replace_occurrence, token.occurrences_append _ _ uncrossed, without, Nat.zero_add,
      induction, token.occurrences_behind_other other separate]
  | passed char rest otherAbsent induction =>
    have same := token.begins_replace_other_iff other separate inserted mark foreign marked inert
      (char :: rest) token.text List.suffix_rfl
    rw [replace_cons _ _ _ _ otherAbsent] at same ⊢
    by_cases stands : token.text <+: char :: rest
    · rw [occurrences, occurrences, if_pos (List.isPrefixOf_iff_prefix.2 stands),
        if_pos (List.isPrefixOf_iff_prefix.2 (same.2 stands)), induction]
    · rw [token.occurrences_cons char _ stands, token.occurrences_cons char _ (mt same.1 stands),
        induction]

end Marked

/-- A text into which an occurrence can reach lets one come up when it is put in. -/
theorem inert_of_occurrences
    (kept : ∀ text, token.occurrences (other.replace inserted text) = token.occurrences text) :
    token.Inert inserted := by
  have never : ∀ text, token.occurrences text = 0 →
      ¬ token.text <:+: other.replace inserted text := by
    intro text nothing stands
    have somewhere := (token.occurrences_pos_iff _).2 stands
    rw [kept text, nothing] at somewhere
    exact Nat.lt_irrefl 0 somewhere
  refine ⟨?_, ?_, ?_⟩
  · have alone := never other.text (token.occurrences_of_absent other.text separate.first_head)
    rw [other.replace_text] at alone
    exact alone
  · intro front back split frontPresent backPresent suffix
    obtain ⟨before, rfl⟩ := suffix
    have lengths := congrArg List.length split
    rw [List.length_append] at lengths
    have positive := List.length_pos_iff.2 frontPresent
    have untouched : other.replace (before ++ front) back = back := by
      apply other.replace_of_absent
      intro member
      exact separate.second_head (split ▸ List.mem_append_right front member)
    apply never (other.text ++ back)
    · rw [token.occurrences_behind_other other separate]
      exact token.occurrences_of_shorter back (by omega)
    · rw [replace_occurrence, untouched]
      exact ⟨before, [], by simp [split]⟩
  · intro front back split frontPresent backPresent begins
    obtain ⟨behind, rfl⟩ := begins
    have lengths := congrArg List.length split
    rw [List.length_append] at lengths
    have positive := List.length_pos_iff.2 backPresent
    have untouched : other.replace (back ++ behind) (front ++ other.text) =
        front ++ (back ++ behind) := by
      have absent : other.head ∉ front := by
        intro member
        exact separate.second_head (split ▸ List.mem_append_left back member)
      rw [other.replace_append _ front other.text
          (other.uncrossed_of_head_not_mem_first front other.text absent),
        other.replace_of_absent _ front absent, other.replace_text]
    apply never (front ++ other.text)
    · rw [token.occurrences_append front other.text
          (token.uncrossed_of_first_not_mem_text front other.tail other.head separate.second_head),
        token.occurrences_of_absent other.text separate.first_head,
        token.occurrences_of_shorter front (by omega)]
    · rw [untouched]
      exact ⟨[], behind, by simp [split]⟩

end Pair

end Token

end PairLoop.Text
