import Mathlib.Data.List.SplitBy
import Mathlib.Data.List.TakeWhile
import PairLoop.Proofs.Text.Token

/-!
Tokens and the words of a text. A word is a run of code points that continue a word, and the code
points between words stand alone. To replace a token where it is a word by itself is the same as
to replace it everywhere exactly if it is part of no longer word.
-/

namespace PairLoop.Text

open Fragment (continuesWord)

/-- Whether two neighbours belong to one word. -/
def joins (first second : Char) : Bool := continuesWord first && continuesWord second

/-- The words of a text and, each by itself, the code points between them. -/
def words (text : List Char) : List (List Char) := text.splitBy joins

/-- Puts a replacement in for the words that are the pattern. -/
def replaceWords (pattern replacement text : List Char) : List Char :=
  (words text).flatMap fun word => if word = pattern then replacement else word

/-- Wherever the pattern stands in a text, no word goes on before it or behind it. -/
def Standalone (pattern text : List Char) : Prop :=
  ∀ before after, text = before ++ (pattern ++ after) →
    (∀ char ∈ before.getLast?, continuesWord char = false) ∧
      ∀ char ∈ after.head?, continuesWord char = false

/-- No word goes on from one text into the other. -/
def Divided (first second : List Char) : Prop :=
  ∀ left ∈ first.getLast?, ∀ right ∈ second.head?, joins left right = false

theorem divided_of_gap (char : Char) (rest : List Char) (gap : continuesWord char = false) :
    Divided [char] rest := by
  intro left last right _
  rw [List.getLast?_singleton, Option.mem_some_iff] at last
  rw [joins, ← last, gap, Bool.false_and]

theorem divided_of_end (front rest : List Char)
    (ended : ∀ char ∈ rest.head?, continuesWord char = false) : Divided front rest := by
  intro left _ right first
  rw [joins, ended right first, Bool.and_false]

theorem words_append (first second : List Char) (divided : Divided first second) :
    words (first ++ second) = words first ++ words second :=
  List.splitBy_append divided

theorem words_gap (char : Char) (rest : List Char) (gap : continuesWord char = false) :
    words (char :: rest) = [char] :: words rest :=
  words_append [char] rest (divided_of_gap char rest gap)

theorem words_of_word (word : List Char) (present : word ≠ [])
    (isWord : ∀ char ∈ word, continuesWord char = true) : words word = [word] := by
  apply List.splitBy_of_isChain present
  apply List.Pairwise.isChain
  apply List.pairwise_of_forall_mem_list
  intro first firstMember second secondMember
  rw [joins, isWord first firstMember, isWord second secondMember, Bool.and_self]

theorem words_word (word rest : List Char) (present : word ≠ [])
    (isWord : ∀ char ∈ word, continuesWord char = true)
    (ended : ∀ char ∈ rest.head?, continuesWord char = false) :
    words (word ++ rest) = word :: words rest := by
  rw [words_append word rest (divided_of_end word rest ended), words_of_word word present isWord]
  rfl

/-- A text is empty, begins with a code point that continues no word, or begins with a word. -/
@[elab_as_elim]
theorem word_induction {motive : List Char → Prop} (nil : motive [])
    (gap : ∀ char rest, continuesWord char = false → motive rest → motive (char :: rest))
    (word : ∀ word rest, word ≠ [] → (∀ char ∈ word, continuesWord char = true) →
      (∀ char ∈ rest.head?, continuesWord char = false) → motive rest → motive (word ++ rest))
    (text : List Char) : motive text := by
  induction size : text.length using Nat.strongRecOn generalizing text with
  | ind size induction =>
    cases text with
    | nil => exact nil
    | cons char rest =>
      rw [List.length_cons] at size
      cases continues : continuesWord char with
      | false => exact gap char rest continues (induction rest.length (by omega) rest rfl)
      | true =>
        -- The word goes on as far as it can, so what is behind it continues no word.
        have shorter := (rest.dropWhile_sublist continuesWord).length_le
        rw [← rest.takeWhile_append_dropWhile, ← List.cons_append]
        apply word
        · exact List.cons_ne_nil _ _
        · intro other member
          rcases List.mem_cons.1 member with same | later
          · rw [same, continues]
          · exact List.mem_takeWhile_imp later
        · intro other first
          have stopped := List.head?_dropWhile_not continuesWord rest
          rw [Option.mem_def] at first
          rw [first] at stopped
          exact stopped
        · exact induction _ (by omega) _ rfl

theorem infix_of_mem_words (text word : List Char) (member : word ∈ words text) :
    word <:+: text := by
  have whole : (words text).flatten = text := List.flatten_splitBy joins text
  obtain ⟨before, after, split⟩ := List.append_of_mem member
  refine ⟨before.flatten, after.flatten, ?_⟩
  rw [← whole, split, List.flatten_append, List.flatten_cons, List.append_assoc]

namespace Token

variable (token : Token)

theorem not_mem_text_of_gap (char : Char) (gap : continuesWord char = false) :
    char ∉ token.text := by
  intro member
  rw [token.continues_of_mem_text char member] at gap
  exact Bool.noConfusion gap

theorem text_ne_gap (char : Char) (gap : continuesWord char = false) : token.text ≠ [char] := by
  intro same
  apply token.not_mem_text_of_gap char gap
  rw [same]
  exact List.mem_cons_self

theorem not_begins_of_gap (char : Char) (rest : List Char) (gap : continuesWord char = false) :
    ¬ token.text <+: char :: rest := by
  intro begins
  apply token.not_mem_text_of_gap char gap
  rw [← token.head_eq_of_begins char rest begins]
  exact token.head_mem

theorem uncrossed_of_divided (first second : List Char) (divided : Divided first second) :
    token.Uncrossed first second := by
  intro front back split frontPresent backPresent suffix begins
  obtain ⟨before, rfl⟩ := suffix
  obtain ⟨after, rfl⟩ := begins
  have left : continuesWord (front.getLast frontPresent) = true := by
    apply token.continues_of_mem_text
    rw [split]
    exact List.mem_append_left back (List.getLast_mem frontPresent)
  have right : continuesWord (back.head backPresent) = true := by
    apply token.continues_of_mem_text
    rw [split]
    exact List.mem_append_right front (List.head_mem backPresent)
  have apart := divided (front.getLast frontPresent)
    (by simp [List.getLast?_eq_some_getLast frontPresent]) (back.head backPresent)
    (by simp [List.head?_eq_some_head backPresent])
  rw [joins, left, right] at apart
  exact Bool.noConfusion apart

section Standing

/-- Between words no occurrence begins or ends, so the texts on both sides are independent. -/
theorem standalone_append_iff (first second : List Char) (divided : Divided first second) :
    Standalone token.text (first ++ second) ↔
      Standalone token.text first ∧ Standalone token.text second := by
  constructor
  · intro standalone
    constructor
    · intro before after split
      have wider := standalone before (after ++ second) (by simp [split])
      refine ⟨wider.1, ?_⟩
      intro char first
      exact wider.2 char (by simp [List.head?_append, Option.mem_def.1 first])
    · intro before after split
      have wider := standalone (first ++ before) after (by simp [split])
      refine ⟨?_, wider.2⟩
      intro char last
      exact wider.1 char (by simp [List.getLast?_append, Option.mem_def.1 last])
  · intro both before after split
    have uncrossed := token.uncrossed_of_divided first second divided
    rcases token.occurrence_in_append first second before after uncrossed split with
      ⟨more, rfl, rfl⟩ | ⟨more, rfl, rfl⟩
    -- An occurrence at the very end of the first text is stopped by the division behind it.
    · obtain ⟨left, right⟩ := both.1 before more rfl
      refine ⟨left, ?_⟩
      intro char begins
      cases more with
      | nil =>
        have ends : token.text.getLast token.text_ne_nil ∈
            (before ++ (token.text ++ [])).getLast? := by
          simp [List.getLast?_eq_some_getLast token.text_ne_nil]
        have apart := divided _ ends char begins
        rw [joins, token.continues_of_mem_text _ (List.getLast_mem _), Bool.true_and] at apart
        exact apart
      | cons next more => exact right char begins
    · obtain ⟨left, right⟩ := both.2 more after rfl
      refine ⟨?_, right⟩
      intro char ends
      cases more with
      | nil =>
        rw [List.append_nil] at ends
        have apart := divided char ends token.head rfl
        rw [joins, token.continues_of_mem_text _ token.head_mem, Bool.and_true] at apart
        exact apart
      | cons next more =>
        apply left char
        rw [List.getLast?_append_of_ne_nil _ (List.cons_ne_nil _ _)] at ends
        exact ends

theorem standalone_of_gap (char : Char) (gap : continuesWord char = false) :
    Standalone token.text [char] := by
  intro before after split
  have member : token.head ∈ [char] := by
    rw [split]
    exact List.mem_append_right before (List.mem_append_left after token.head_mem)
  rw [← List.mem_singleton.1 member, token.continues_of_mem_text _ token.head_mem] at gap
  exact Bool.noConfusion gap

/-- A code point that continues no word has no part in an occurrence. -/
theorem standalone_gap_iff (char : Char) (rest : List Char) (gap : continuesWord char = false) :
    Standalone token.text (char :: rest) ↔ Standalone token.text rest := by
  have parts := token.standalone_append_iff [char] rest (divided_of_gap char rest gap)
  exact parts.trans (and_iff_right (token.standalone_of_gap char gap))

/-- In a word the token stands alone if it is the word. -/
theorem standalone_word_iff (word : List Char) (isWord : ∀ char ∈ word, continuesWord char = true) :
    Standalone token.text word ↔ (token.text <:+: word → word = token.text) := by
  constructor
  · intro standalone stands
    obtain ⟨before, after, split⟩ := stands
    rw [List.append_assoc] at split
    obtain ⟨left, right⟩ := standalone before after split.symm
    have nothingBefore : before = [] := by
      by_contra present
      have ends := left (before.getLast present) (List.getLast?_eq_some_getLast present)
      have continues := isWord (before.getLast present)
        (split ▸ List.mem_append_left _ (List.getLast_mem present))
      rw [continues] at ends
      exact Bool.noConfusion ends
    have nothingAfter : after = [] := by
      by_contra present
      have begins := right (after.head present) (List.head?_eq_some_head present)
      have continues := isWord (after.head present)
        (split ▸ List.mem_append_right _ (List.mem_append_right _ (List.head_mem present)))
      rw [continues] at begins
      exact Bool.noConfusion begins
    rw [← split, nothingBefore, nothingAfter, List.nil_append, List.append_nil]
  · intro whole before after split
    have same := whole ⟨before, after, by rw [List.append_assoc, split]⟩
    have lengths := congrArg List.length split
    rw [same, List.length_append, List.length_append] at lengths
    have nothingBefore : before = [] := List.length_eq_zero_iff.1 (by omega)
    have nothingAfter : after = [] := List.length_eq_zero_iff.1 (by omega)
    subst nothingBefore
    subst nothingAfter
    simp

/-- A token that stands alone is one of the words. -/
theorem mem_words_iff (text : List Char) (standalone : Standalone token.text text) :
    token.text ∈ words text ↔ token.text <:+: text := by
  constructor
  · exact infix_of_mem_words text token.text
  · intro stands
    obtain ⟨before, after, split⟩ := stands
    rw [List.append_assoc] at split
    obtain ⟨left, right⟩ := standalone before after split.symm
    have divided : Divided before (token.text ++ after) := by
      intro char last other _
      rw [joins, left char last, Bool.false_and]
    rw [← split, words_append before _ divided,
      words_word token.text after token.text_ne_nil token.continues_of_mem_text right]
    exact List.mem_append_right _ List.mem_cons_self

end Standing

section Replacement

variable (replacement : List Char)

/-- Puts a replacement in for the token where it is a word by itself. -/
def replaceAlone (text : List Char) : List Char := replaceWords token.text replacement text

theorem replace_alone_gap (char : Char) (rest : List Char) (gap : continuesWord char = false) :
    token.replaceAlone replacement (char :: rest) =
      char :: token.replaceAlone replacement rest := by
  rw [replaceAlone, replaceWords, words_gap char rest gap, List.flatMap_cons,
    if_neg (token.text_ne_gap char gap).symm]
  rfl

theorem replace_alone_word (word rest : List Char) (present : word ≠ [])
    (isWord : ∀ char ∈ word, continuesWord char = true)
    (ended : ∀ char ∈ rest.head?, continuesWord char = false) :
    token.replaceAlone replacement (word ++ rest) =
      (if word = token.text then replacement else word) ++ token.replaceAlone replacement rest := by
  rw [replaceAlone, replaceWords, words_word word rest present isWord ended, List.flatMap_cons]
  rfl

/-- Where no word goes on, none does after a replacement. -/
theorem ended_replace_alone (rest : List Char)
    (ended : ∀ char ∈ rest.head?, continuesWord char = false) :
    ∀ char ∈ (token.replaceAlone replacement rest).head?, continuesWord char = false := by
  cases rest with
  | nil => exact ended
  | cons char rest =>
    rw [replace_alone_gap _ _ _ _ (ended char rfl)]
    exact ended

theorem replace_text : token.replace replacement token.text = replacement := by
  have whole := token.replace_occurrence replacement []
  rw [List.append_nil, replace_nil, List.append_nil] at whole
  exact whole

theorem replace_gap (char : Char) (rest : List Char) (gap : continuesWord char = false) :
    token.replace replacement (char :: rest) = char :: token.replace replacement rest :=
  token.replace_cons replacement char rest (token.not_begins_of_gap char rest gap)

theorem replace_word (word rest : List Char)
    (ended : ∀ char ∈ rest.head?, continuesWord char = false) :
    token.replace replacement (word ++ rest) =
      token.replace replacement word ++ token.replace replacement rest :=
  token.replace_append replacement word rest
    (token.uncrossed_of_divided word rest (divided_of_end word rest ended))

theorem replace_of_not_infix (text : List Char) (absent : ¬ token.text <:+: text) :
    token.replace replacement text = text := by
  induction text with
  | nil => rfl
  | cons char rest induction =>
    have later := mt (fun stands => List.IsInfix.trans stands (List.suffix_cons char rest).isInfix)
      absent
    rw [replace_cons _ _ _ _ (mt List.IsPrefix.isInfix absent), induction later]

theorem replace_eq_replace_alone (text : List Char) (standalone : Standalone token.text text) :
    token.replace replacement text = token.replaceAlone replacement text := by
  induction text using word_induction with
  | nil => rfl
  | gap char rest gap induction =>
    have behind := (token.standalone_gap_iff char rest gap).1 standalone
    rw [replace_gap _ _ _ _ gap, replace_alone_gap _ _ _ _ gap, induction behind]
  | word word rest present isWord ended induction =>
    have divided := divided_of_end word rest ended
    have parts := (token.standalone_append_iff word rest divided).1 standalone
    have whole := (token.standalone_word_iff word isWord).1 parts.1
    rw [replace_word _ _ _ _ ended, replace_alone_word _ _ _ _ present isWord ended,
      induction parts.2]
    by_cases same : word = token.text
    · rw [if_pos same, same, replace_text]
    · rw [if_neg same, replace_of_not_infix _ _ _ (mt whole same)]

end Replacement

end Token

end PairLoop.Text
