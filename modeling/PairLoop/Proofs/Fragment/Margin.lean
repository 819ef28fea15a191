import Mathlib.Data.List.Forall2
import Mathlib.Data.List.TakeWhile
import PairLoop.Fragment.Indentation

/-!
What a margin is and what its removal leaves. The margin is found line by line, and yet it is the
longest text that begins the indentations of all lines that hold something. So every such line
loses just the margin, nothing common is left to remove, and a second removal changes nothing.
-/

namespace PairLoop.Fragment

section Longest

/-- A text begins all the given texts, and no longer text does. -/
structure IsLongestBeginning (part : List Char) (texts : List (List Char)) : Prop where
  begins : ∀ text ∈ texts, part <+: text
  longest : ∀ other, (∀ text ∈ texts, other <+: text) → other.length ≤ part.length

/-- The indentations of the lines that hold something. -/
def indentations (lines : List (List Char)) : List (List Char) :=
  (lines.filter fun line => !isBlankLine line).map indentation

theorem margin_eq (lines : List (List Char)) :
    margin lines =
      match indentations lines with
      | [] => []
      | first :: others => others.foldl commonBeginning first := rfl

theorem mem_indentations_iff (lines : List (List Char)) (indent : List Char) :
    indent ∈ indentations lines ↔
      ∃ line ∈ lines, isBlankLine line = false ∧ indentation line = indent := by
  simp [indentations, and_assoc]

theorem fold_common_beginning_prefix (first : List Char) (others : List (List Char)) :
    others.foldl commonBeginning first <+: first ∧
      ∀ other ∈ others, others.foldl commonBeginning first <+: other := by
  induction others generalizing first with
  | nil => exact ⟨List.prefix_rfl, fun _ impossible => absurd impossible List.not_mem_nil⟩
  | cons head rest induction =>
    obtain ⟨inside, common⟩ := induction (commonBeginning first head)
    have left := common_beginning_prefix_left first head
    have right := common_beginning_prefix_left head first
    rw [common_beginning_comm] at right
    refine ⟨inside.trans left, ?_⟩
    intro other member
    rcases List.mem_cons.1 member with same | later
    · rw [same]
      exact inside.trans right
    · exact common other later

theorem prefix_fold_common_beginning (part first : List Char) (others : List (List Char))
    (begins : part <+: first) (common : ∀ other ∈ others, part <+: other) :
    part <+: others.foldl commonBeginning first := by
  induction others generalizing first with
  | nil => exact begins
  | cons head rest induction =>
    rw [List.forall_mem_cons] at common
    exact induction _ (prefix_common_beginning part first head begins common.1) common.2

/-- Narrowing from line to line comes to the longest common beginning. -/
theorem margin_is_longest (lines : List (List Char)) (filled : indentations lines ≠ []) :
    IsLongestBeginning (margin lines) (indentations lines) := by
  obtain ⟨first, others, split⟩ := List.exists_cons_of_ne_nil filled
  rw [margin_eq, split]
  obtain ⟨inside, common⟩ := fold_common_beginning_prefix first others
  constructor
  · exact List.forall_mem_cons.2 ⟨inside, common⟩
  · intro other begins
    rw [List.forall_mem_cons] at begins
    exact (prefix_fold_common_beginning other first others begins.1 begins.2).length_le

/-- The margin begins the indentation of every line that holds something. -/
theorem margin_prefix_indentation (lines : List (List Char)) (line : List Char)
    (member : line ∈ lines) (filled : isBlankLine line = false) :
    margin lines <+: indentation line := by
  have listed := (mem_indentations_iff lines _).2 ⟨line, member, filled, rfl⟩
  exact (margin_is_longest lines (List.ne_nil_of_mem listed)).begins _ listed

end Longest

section Removal

theorem without_margin_append (margin rest : List Char)
    (filled : isBlankLine (margin ++ rest) = false) :
    withoutMargin margin (margin ++ rest) = rest := by
  have begins : margin.isPrefixOf (margin ++ rest) = true :=
    List.isPrefixOf_iff_prefix.2 (List.prefix_append margin rest)
  unfold withoutMargin
  rw [filled, if_neg Bool.false_ne_true, if_pos begins, List.drop_left]

/-- A line that holds something begins with the margin, so what is left of it is the rest. -/
theorem margin_append_without_margin (lines : List (List Char)) (line : List Char)
    (member : line ∈ lines) (filled : isBlankLine line = false) :
    margin lines ++ withoutMargin (margin lines) line = line := by
  have begins := (margin_prefix_indentation lines line member filled).trans
    (List.takeWhile_prefix isIndent)
  obtain ⟨rest, rfl⟩ := begins
  rw [without_margin_append (margin lines) rest filled]

theorem without_margin_of_blank (margin line : List Char) (blank : isBlankLine line = true) :
    withoutMargin margin line = [] := by
  unfold withoutMargin
  rw [if_pos blank]

theorem indents_of_mem_margin (lines : List (List Char)) (line : List Char)
    (member : line ∈ lines) (filled : isBlankLine line = false) :
    (margin lines).all isIndent = true := by
  apply List.all_eq_true.2
  intro char inMargin
  have begins := margin_prefix_indentation lines line member filled
  exact List.mem_takeWhile_imp (begins.subset inMargin)

/-- What a line loses with the margin are spaces and tabs at its beginning. -/
theorem exists_gap (lines : List (List Char)) (line : List Char) (member : line ∈ lines) :
    ∃ gap, gap.all isIndent = true ∧ line = gap ++ withoutMargin (margin lines) line := by
  cases blank : isBlankLine line with
  | true => exact ⟨line, blank, by rw [without_margin_of_blank _ _ blank, List.append_nil]⟩
  | false =>
    refine ⟨margin lines, indents_of_mem_margin lines line member blank, ?_⟩
    exact (margin_append_without_margin lines line member blank).symm

/-- A line holds something exactly if what is left of it does. -/
theorem blank_without_margin (lines : List (List Char)) (line : List Char)
    (member : line ∈ lines) :
    isBlankLine (withoutMargin (margin lines) line) = isBlankLine line := by
  obtain ⟨gap, indents, split⟩ := exists_gap lines line member
  have halves : isBlankLine line =
      (gap.all isIndent && isBlankLine (withoutMargin (margin lines) line)) := by
    rw [isBlankLine, isBlankLine, ← List.all_append, ← split]
  rw [halves, indents, Bool.true_and]

end Removal

section Lines

theorem not_mem_of_mem_split_on (separator : Char) (text piece : List Char)
    (member : piece ∈ text.splitOn separator) : separator ∉ piece := by
  induction text generalizing piece with
  | nil =>
    rw [List.splitOn_nil, List.mem_singleton] at member
    rw [member]
    exact List.not_mem_nil
  | cons char rest induction =>
    rw [List.splitOn_cons_eq_if_modifyHead] at member
    split at member
    · rcases List.mem_cons.1 member with empty | later
      · rw [empty]
        exact List.not_mem_nil
      · exact induction piece later
    · next different =>
      obtain ⟨head, tail, split⟩ := List.exists_cons_of_ne_nil (List.splitOn_ne_nil separator rest)
      rw [split, List.modifyHead_cons] at member
      rw [split] at induction
      rcases List.mem_cons.1 member with first | later
      · rw [first, List.mem_cons, not_or]
        exact ⟨fun same => different (beq_iff_eq.2 same.symm), induction head List.mem_cons_self⟩
      · exact induction piece (List.mem_cons_of_mem _ later)

/-- The lines of the result are what is left of the lines of the text. -/
theorem split_dedent_text (text : List Char) :
    (dedentText text).splitOn '\n' =
      (text.splitOn '\n').map (withoutMargin (margin (text.splitOn '\n'))) := by
  apply List.splitOn_intercalate
  · intro line member
    obtain ⟨original, listed, rfl⟩ := List.mem_map.1 member
    obtain ⟨gap, _, split⟩ := exists_gap _ original listed
    have absent := not_mem_of_mem_split_on '\n' text original listed
    rw [split, List.mem_append, not_or] at absent
    exact absent.2
  · rw [Ne, List.map_eq_nil_iff]
    exact List.splitOn_ne_nil '\n' text

/-- No spaces and tabs begin all the lines of the result that hold something. -/
theorem eq_nil_of_common_run (lines : List (List Char)) (line : List Char) (member : line ∈ lines)
    (filled : isBlankLine line = false) (run : List Char) (indents : run.all isIndent = true)
    (common : ∀ other ∈ lines, isBlankLine other = false →
      run <+: withoutMargin (margin lines) other) : run = [] := by
  -- Otherwise the margin could have been longer by the run.
  have longer : ∀ indent ∈ indentations lines, margin lines ++ run <+: indent := by
    intro indent listed
    obtain ⟨other, otherMember, otherFilled, rfl⟩ := (mem_indentations_iff lines indent).1 listed
    obtain ⟨rest, split⟩ := common other otherMember otherFilled
    have whole := margin_append_without_margin lines other otherMember otherFilled
    have taken : indentation other = margin lines ++ run ++ rest.takeWhile isIndent := by
      rw [← whole, ← split, ← List.append_assoc]
      apply List.takeWhile_append_of_pos
      intro char inFront
      rcases List.mem_append.1 inFront with inMargin | inRun
      · have margins := indents_of_mem_margin lines line member filled
        exact List.all_eq_true.1 margins char inMargin
      · exact List.all_eq_true.1 indents char inRun
    rw [taken]
    exact List.prefix_append _ _
  have listed := (mem_indentations_iff lines _).2 ⟨line, member, filled, rfl⟩
  have bound := (margin_is_longest lines (List.ne_nil_of_mem listed)).longest _ longer
  rw [List.length_append] at bound
  exact List.eq_nil_of_length_eq_zero (by omega)

/-- After the removal there is no margin any more. -/
theorem margin_of_removed (lines : List (List Char)) :
    margin (lines.map (withoutMargin (margin lines))) = [] := by
  by_cases nothing : indentations (lines.map (withoutMargin (margin lines))) = []
  · rw [margin_eq (lines.map _), nothing]
  · obtain ⟨indent, listed⟩ := List.exists_mem_of_ne_nil _ nothing
    obtain ⟨rest, restMember, restFilled, _⟩ := (mem_indentations_iff _ indent).1 listed
    obtain ⟨line, member, rfl⟩ := List.mem_map.1 restMember
    have filled : isBlankLine line = false := by
      rw [← blank_without_margin lines line member]
      exact restFilled
    apply eq_nil_of_common_run lines line member filled
    · exact indents_of_mem_margin _ _ restMember restFilled
    · intro other otherMember otherFilled
      have begins := margin_prefix_indentation (lines.map (withoutMargin (margin lines)))
        (withoutMargin (margin lines) other) (List.mem_map_of_mem otherMember)
        ((blank_without_margin lines other otherMember).trans otherFilled)
      exact begins.trans (List.takeWhile_prefix isIndent)

theorem without_margin_nil (line : List Char) (cleared : isBlankLine line = true → line = []) :
    withoutMargin [] line = line := by
  cases blank : isBlankLine line with
  | true => rw [without_margin_of_blank [] line blank, cleared blank]
  | false => exact without_margin_append [] line blank

theorem dedent_text_idem (text : List Char) : dedentText (dedentText text) = dedentText text := by
  have unchanged : ∀ line ∈ (dedentText text).splitOn '\n', withoutMargin [] line = line := by
    intro line member
    rw [split_dedent_text] at member
    obtain ⟨original, listed, rfl⟩ := List.mem_map.1 member
    apply without_margin_nil
    intro blank
    rw [blank_without_margin _ original listed] at blank
    exact without_margin_of_blank _ original blank
  have cleared : margin ((dedentText text).splitOn '\n') = [] := by
    rw [split_dedent_text]
    exact margin_of_removed _
  calc dedentText (dedentText text)
    _ = ['\n'].intercalate (((dedentText text).splitOn '\n').map (withoutMargin [])) :=
      congrArg (fun margin => ['\n'].intercalate
        (((dedentText text).splitOn '\n').map (withoutMargin margin))) cleared
    _ = ['\n'].intercalate ((dedentText text).splitOn '\n') := by
      rw [List.map_congr_left unchanged, List.map_id']
    _ = dedentText text := List.intercalate_splitOn '\n'

end Lines

/-- Every line that holds something loses the longest beginning that the indentations of these lines
have in common, every other line becomes empty, and no line comes or goes. So no spaces or tabs
begin all the lines that are left with something, and removing a margin again changes nothing. -/
theorem dedent_removes_margin (code : String) :
    let lines := code.toList.splitOn '\n'
    let result := (dedent code).toList.splitOn '\n'
    (indentations lines ≠ [] → IsLongestBeginning (margin lines) (indentations lines)) ∧
    List.Forall₂ (fun line rest =>
      if isBlankLine line then rest = [] else line = margin lines ++ rest) lines result ∧
    result.length = lines.length ∧
    (∀ run, run ≠ [] → run.all isIndent = true →
      (∃ line ∈ result, isBlankLine line = false) →
        ∃ line ∈ result, isBlankLine line = false ∧ ¬ run <+: line) ∧
    dedent (dedent code) = dedent code := by
  intro lines result
  have remain : result = lines.map (withoutMargin (margin lines)) := by
    change (String.ofList (dedentText code.toList)).toList.splitOn '\n' = _
    rw [String.toList_ofList]
    exact split_dedent_text code.toList
  refine ⟨margin_is_longest lines, ?_, ?_, ?_, ?_⟩
  · rw [remain, List.forall₂_map_right_iff, List.forall₂_same]
    intro line member
    split
    · next blank => exact without_margin_of_blank _ line blank
    · next filled =>
      rw [Bool.not_eq_true] at filled
      exact (margin_append_without_margin lines line member filled).symm
  · rw [remain, List.length_map]
  · intro run present indents filled
    rw [remain] at filled ⊢
    obtain ⟨rest, restMember, restFilled⟩ := filled
    obtain ⟨line, member, rfl⟩ := List.mem_map.1 restMember
    rw [blank_without_margin lines line member] at restFilled
    by_contra common
    apply present
    apply eq_nil_of_common_run lines line member restFilled run indents
    intro other otherMember otherFilled
    by_contra absent
    rw [← blank_without_margin lines other otherMember] at otherFilled
    exact common ⟨_, List.mem_map_of_mem otherMember, otherFilled, absent⟩
  · unfold dedent
    rw [String.toList_ofList, dedent_text_idem]

end PairLoop.Fragment
