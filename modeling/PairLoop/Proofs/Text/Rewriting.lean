import PairLoop.Proofs.Text.Word

/-!
What replacing a token in longer words too does to a text. Every replacement brings marks into the
text, so a further one shows in their number, also after a second token has been replaced: none of
its occurrences is lost by the first replacement, as the tokens do not overlap.
-/

namespace PairLoop.Text.Token

open Fragment (continuesWord)

/-- The second text comes from the first by a replacement at some occurrences of the token. -/
inductive Rewritten (token : Token) (replacement : List Char) : List Char → List Char → Prop
  | nil : Rewritten token replacement [] []
  | keep {first second : List Char} (char : Char)
      (rest : Rewritten token replacement first second) :
      Rewritten token replacement (char :: first) (char :: second)
  | rewrite {first second : List Char} (rest : Rewritten token replacement first second) :
      Rewritten token replacement (token.text ++ first) (replacement ++ second)

section Single

variable (token : Token) (replacement : List Char)

theorem rewritten_append (front first second : List Char)
    (rewritten : Rewritten token replacement first second) :
    Rewritten token replacement (front ++ first) (front ++ second) := by
  induction front with
  | nil => exact rewritten
  | cons char front induction => exact .keep char induction

theorem rewritten_replace_append (front first second : List Char)
    (rewritten : Rewritten token replacement first second) :
    Rewritten token replacement (front ++ first) (token.replace replacement front ++ second) := by
  induction front using token.scan_induction with
  | nil => exact rewritten
  | found rest induction =>
    rw [replace_occurrence, List.append_assoc, List.append_assoc]
    exact .rewrite induction
  | passed char rest absent induction =>
    rw [replace_cons _ _ _ _ absent]
    exact .keep char induction

/-- What is left in longer words is rewritten as well when the token is replaced everywhere. -/
theorem replace_alone_rewritten (text : List Char) :
    Rewritten token replacement (token.replaceAlone replacement text)
      (token.replace replacement text) := by
  induction text using word_induction with
  | nil => exact .nil
  | gap char rest gap induction =>
    rw [replace_alone_gap _ _ _ _ gap, replace_gap _ _ _ _ gap]
    exact .keep char induction
  | word word rest present isWord ended induction =>
    rw [replace_alone_word _ _ _ _ present isWord ended, replace_word _ _ _ _ ended]
    by_cases same : word = token.text
    · rw [if_pos same, same, replace_text]
      exact rewritten_append token replacement replacement _ _ induction
    · rw [if_neg same]
      exact rewritten_replace_append token replacement word _ _ induction

variable (mark : Char) (foreign : mark ∉ token.text) (carried : mark ∈ replacement)

include foreign in
theorem count_le_of_rewritten (first second : List Char)
    (rewritten : Rewritten token replacement first second) :
    first.count mark ≤ second.count mark := by
  induction rewritten with
  | nil => exact Nat.le_refl _
  | keep char _ induction =>
    rw [List.count_cons, List.count_cons]
    exact Nat.add_le_add_right induction _
  | rewrite _ induction =>
    rw [List.count_append, List.count_append, List.count_eq_zero_of_not_mem foreign]
    omega

include foreign in
theorem count_replace_alone_le (text : List Char) :
    (token.replaceAlone replacement text).count mark ≤
      (token.replace replacement text).count mark :=
  count_le_of_rewritten token replacement mark foreign _ _
    (replace_alone_rewritten token replacement text)

include foreign carried

/-- If the marks are as many, the token was replaced in no longer word. -/
theorem standalone_of_count_eq (text : List Char)
    (equal : (token.replaceAlone replacement text).count mark =
      (token.replace replacement text).count mark) : Standalone token.text text := by
  induction text using word_induction with
  | nil =>
    intro before after split
    have impossible := congrArg List.length split
    simp [text] at impossible
  | gap char rest gap induction =>
    rw [replace_alone_gap _ _ _ _ gap, replace_gap _ _ _ _ gap, List.count_cons, List.count_cons,
      Nat.add_right_cancel_iff] at equal
    exact (token.standalone_gap_iff char rest gap).2 (induction equal)
  | word word rest present isWord ended induction =>
    rw [replace_alone_word _ _ _ _ present isWord ended, replace_word _ _ _ _ ended,
      List.count_append, List.count_append] at equal
    apply (token.standalone_append_iff word rest (divided_of_end word rest ended)).2
    have below := count_replace_alone_le token replacement mark foreign rest
    have positive := List.count_pos_iff.2 carried
    rw [token.standalone_word_iff word isWord]
    by_cases same : word = token.text
    · rw [if_pos same, same, replace_text, Nat.add_left_cancel_iff] at equal
      exact ⟨fun _ => same, induction equal⟩
    -- Behind a longer word no marks are lost, so the word itself must have brought none.
    · rw [if_neg same, token.count_replace replacement mark foreign word] at equal
      have product : token.occurrences word * replacement.count mark = 0 := by omega
      have nowhere : token.occurrences word = 0 := by
        rcases Nat.mul_eq_zero.1 product with none | none
        · exact none
        · omega
      constructor
      · intro stands
        have somewhere := (token.occurrences_pos_iff word).2 stands
        omega
      · apply induction
        omega

end Single

section Pair

/-- Neither of two tokens contains the first code point of the other. -/
structure Separate (first second : Token) : Prop where
  first_head : first.head ∉ second.text
  second_head : second.head ∉ first.text

theorem Separate.symm {first second : Token} (separate : Separate first second) :
    Separate second first :=
  ⟨separate.second_head, separate.first_head⟩

variable (token other : Token) (separate : Separate token other) (replacement inserted : List Char)
  (mark : Char) (foreign : mark ∉ token.text) (otherForeign : mark ∉ other.text)
  (carried : mark ∈ replacement) (otherCarried : mark ∈ inserted)

include separate in
theorem occurrences_behind_other (rest : List Char) :
    token.occurrences (other.text ++ rest) = token.occurrences rest := by
  rw [token.occurrences_append other.text rest
      (token.uncrossed_of_head_not_mem_first other.text rest separate.first_head),
    token.occurrences_of_absent other.text separate.first_head, Nat.zero_add]

include separate in
/-- What is put in for another token is the only place where a token comes anew. -/
theorem standalone_replace_alone_iff (text : List Char) :
    Standalone token.text (other.replaceAlone inserted text) ↔
      Standalone token.text text ∧ (other.text ∈ words text → Standalone token.text inserted) := by
  induction text using word_induction with
  | nil => exact ⟨fun standalone => ⟨standalone, fun member => absurd member List.not_mem_nil⟩,
      And.left⟩
  | gap char rest gap induction =>
    rw [replace_alone_gap _ _ _ _ gap, words_gap char rest gap, List.mem_cons,
      or_iff_right (other.text_ne_gap char gap), token.standalone_gap_iff char _ gap,
      token.standalone_gap_iff char rest gap]
    exact induction
  | word word rest present isWord ended induction =>
    have stillEnded := other.ended_replace_alone inserted rest ended
    rw [replace_alone_word _ _ _ _ present isWord ended,
      words_word word rest present isWord ended, List.mem_cons,
      token.standalone_append_iff _ _ (divided_of_end _ _ stillEnded),
      token.standalone_append_iff word rest (divided_of_end word rest ended), induction]
    by_cases same : word = other.text
    · have without : Standalone token.text other.text := by
        apply (token.standalone_word_iff other.text other.continues_of_mem_text).2
        intro stands
        exact absurd (stands.subset token.head_mem) separate.first_head
      subst same
      simp only [if_true, true_or, forall_const, without, true_and]
      constructor
      · intro both
        exact ⟨both.2.1, both.1⟩
      · intro both
        exact ⟨both.2, both.1, fun _ => both.2⟩
    · simp only [same, Ne.symm same, if_false, false_or, and_assoc]

include separate foreign otherForeign otherCarried

theorem count_replace_rewrite_lt (before after : List Char) :
    (token.replace replacement (before ++ (other.text ++ after))).count mark <
      (token.replace replacement (before ++ (inserted ++ after))).count mark := by
  -- The other token neither holds the token nor is part of one across its borders.
  have outside : token.occurrences (before ++ (other.text ++ after)) =
      token.occurrences before + token.occurrences after := by
    have border : token.Uncrossed before (other.text ++ after) :=
      token.uncrossed_of_first_not_mem_text before (other.tail ++ after) other.head
        separate.second_head
    rw [token.occurrences_append before (other.text ++ after) border,
      token.occurrences_behind_other other separate]
  have kept : token.occurrences (before ++ (other.text ++ after)) ≤
      token.occurrences (before ++ (inserted ++ after)) := by
    have left := token.le_occurrences_append before (inserted ++ after)
    have right := token.le_occurrences_append inserted after
    omega
  have brought := Nat.mul_le_mul_right (replacement.count mark) kept
  have positive := List.count_pos_iff.2 otherCarried
  rw [count_replace _ _ _ foreign, count_replace _ _ _ foreign]
  simp only [List.count_append, List.count_eq_zero_of_not_mem otherForeign]
  omega

theorem eq_or_count_lt_of_rewritten (first second : List Char)
    (rewritten : Rewritten other inserted first second) (before : List Char) :
    first = second ∨ (token.replace replacement (before ++ first)).count mark <
      (token.replace replacement (before ++ second)).count mark := by
  induction rewritten generalizing before with
  | nil => exact .inl rfl
  | keep char _ induction =>
    rcases induction (before ++ [char]) with same | less
    · exact .inl (congrArg (char :: ·) same)
    · rw [List.append_assoc, List.append_assoc] at less
      exact .inr less
  | @rewrite first second _ induction =>
    have step := count_replace_rewrite_lt token other separate replacement inserted mark foreign
      otherForeign otherCarried before first
    rcases induction (before ++ inserted) with same | less
    · rw [← same]
      exact .inr step
    · rw [List.append_assoc, List.append_assoc] at less
      exact .inr (Nat.lt_trans step less)

include carried

/-- Replacing two tokens everywhere, one after the other, comes to replacing them where they are
words exactly if either stands in no longer word when its turn comes. -/
theorem replace_replace_eq_alone_iff (text : List Char) :
    token.replace replacement (other.replace inserted text) =
        token.replaceAlone replacement (other.replaceAlone inserted text) ↔
      Standalone other.text text ∧ Standalone token.text (other.replace inserted text) := by
  constructor
  · intro same
    -- Each further replacement, of either token, would leave more marks in the result.
    have counts := congrArg (List.count mark) same
    have below := count_replace_alone_le token replacement mark foreign
      (other.replaceAlone inserted text)
    have firstSame : other.replaceAlone inserted text = other.replace inserted text := by
      rcases eq_or_count_lt_of_rewritten token other separate replacement inserted mark foreign
        otherForeign otherCarried _ _ (replace_alone_rewritten other inserted text) [] with
        equal | less
      · exact equal
      · rw [List.nil_append, List.nil_append] at less
        omega
    constructor
    · apply standalone_of_count_eq other inserted mark otherForeign otherCarried
      rw [firstSame]
    · apply standalone_of_count_eq token replacement mark foreign carried
      rw [firstSame] at counts
      exact counts.symm
  · intro standalone
    rw [token.replace_eq_replace_alone replacement _ standalone.2,
      other.replace_eq_replace_alone inserted text standalone.1]

end Pair

end PairLoop.Text.Token
