import PairLoop.Library.Block
import PairLoop.Proofs.Fragment.Margin
import PairLoop.Proofs.Fragment.Reading

/-!
The names that a fragment uses do not hang on its indentation. Spaces and tabs at the beginning of
a line are read in two situations only, between the words of the code and inside a string that goes
on behind an escaped line feed, and neither takes notice of them. What the scan reads ahead lies on
the line of the word before it. So a fragment has the same names, or the same fault on the same
line, before and after its margin is removed.
-/

namespace PairLoop.Fragment

open PairLoop.Unicode

/-- The second text is the first without some of the spaces and tabs at the beginnings of its lines.
The mark tells whether both texts are at the beginning of a line. -/
inductive Outdented : Bool → List Char → List Char → Prop
  | nil {fresh : Bool} : Outdented fresh [] []
  | lineFeed {fresh : Bool} {first second : List Char} (behind : Outdented true first second) :
      Outdented fresh ('\n' :: first) ('\n' :: second)
  | kept {fresh : Bool} {first second : List Char} (char : Char)
      (behind : Outdented false first second) : Outdented fresh (char :: first) (char :: second)
  | omitted {first second : List Char} (char : Char) (indents : isIndent char = true)
      (behind : Outdented true first second) : Outdented true (char :: first) second

theorem Outdented.of_within {first second : List Char} (fresh : Bool)
    (outdented : Outdented false first second) : Outdented fresh first second := by
  cases outdented with
  | nil => exact .nil
  | lineFeed behind => exact .lineFeed behind
  | kept char behind => exact .kept char behind

section Lines

theorem outdented_kept (line first second : List Char) (behind : Outdented false first second) :
    Outdented false (line ++ first) (line ++ second) := by
  induction line with
  | nil => exact behind
  | cons char line induction => exact .kept char induction

theorem outdented_line (gap line first second : List Char) (blank : gap.all isIndent = true)
    (behind : Outdented false first second) :
    Outdented true (gap ++ line ++ first) (line ++ second) := by
  induction gap with
  | nil => exact (outdented_kept line first second behind).of_within true
  | cons char gap induction =>
    rw [List.all_cons, Bool.and_eq_true] at blank
    exact .omitted char blank.1 (induction blank.2)

theorem outdented_lines (trimmed : List Char → List Char) (lines : List (List Char))
    (gaps : ∀ line ∈ lines, ∃ gap, gap.all isIndent = true ∧ line = gap ++ trimmed line) :
    Outdented true (['\n'].intercalate lines) (['\n'].intercalate (lines.map trimmed)) := by
  induction lines with
  | nil => exact .nil
  | cons line rest induction =>
    obtain ⟨gap, blank, split⟩ := gaps line List.mem_cons_self
    have restOutdented := induction fun line member => gaps line (List.mem_cons_of_mem _ member)
    cases rest with
    | nil =>
      have whole := outdented_line gap (trimmed line) [] [] blank .nil
      rw [← split, List.append_nil, List.append_nil] at whole
      simpa using whole
    | cons next rest =>
      have whole := outdented_line gap (trimmed line) _ _ blank (.lineFeed restOutdented)
      rw [← split] at whole
      simpa using whole

theorem outdented_dedent (text : List Char) : Outdented true text (dedentText text) := by
  have lines := outdented_lines (withoutMargin (margin (text.splitOn '\n'))) (text.splitOn '\n')
    (exists_gap (text.splitOn '\n'))
  rw [List.intercalate_splitOn] at lines
  exact lines

end Lines

section Scanning

theorem head_of_outdented (first second : List Char) (outdented : Outdented false first second) :
    first.head? = second.head? := by
  cases outdented <;> rfl

/-- An equals sign is looked for on the line of the word, where the texts are the same. -/
theorem begins_assignment_of_outdented (first second : List Char)
    (outdented : Outdented false first second) :
    beginsAssignment first = beginsAssignment second := by
  generalize within : false = fresh at outdented
  induction outdented with
  | nil => rfl
  | lineFeed behind _ => rfl
  | omitted char indents behind _ => exact Bool.noConfusion within
  | kept char behind induction =>
    rw [begins_assignment_cons, begins_assignment_cons, induction rfl,
      head_of_outdented _ _ behind]

/-- A string ends with the quote that it began with. -/
def Mode.Quoted : Mode → Prop
  | .string quote => isQuote quote = true
  | .escape quote => isQuote quote = true
  | _ => True

/-- What a line can begin in. -/
def Mode.BeginsLine : Mode → Prop
  | .code => True
  | .string quote => isQuote quote = true
  | _ => False

namespace Scan

variable (scan next : Scan) (mode nextMode : Mode)

theorem quoted_of_start (char : Char)
    (stepped : scan.start char = .ok (next, nextMode)) : nextMode.Quoted := by
  rw [start_eq] at stepped
  cases begins : beginning char with
  | string =>
    rw [begins] at stepped
    cases stepped
    exact quotes_of_beginning char begins
  | closing expected =>
    rw [begins] at stepped
    dsimp only at stepped
    cases closed : scan.closeBracket expected char with
    | error error =>
      rw [closed] at stepped
      cases stepped
    | ok outer =>
      rw [closed] at stepped
      cases stepped
      trivial
  | _ =>
    rw [begins] at stepped
    cases stepped
    trivial

theorem quoted_of_step (quoted : mode.Quoted) (char : Char) (rest : List Char)
    (stepped : scan.step mode char rest = .ok (next, nextMode)) : nextMode.Quoted := by
  cases mode with
  | code => exact scan.quoted_of_start next nextMode char stepped
  | comment =>
    rw [step] at stepped
    split at stepped
    · exact scan.quoted_of_start next nextMode char stepped
    · cases stepped
      trivial
  | string quote =>
    rw [step] at stepped
    repeat' split at stepped
    all_goals cases stepped
    · exact quoted
    · trivial
    · exact quoted
  | escape quote =>
    cases stepped
    exact quoted
  | number previous =>
    rw [step] at stepped
    split at stepped
    · cases stepped
      trivial
    · exact scan.quoted_of_start next nextMode char stepped
  | word letters =>
    rw [step] at stepped
    split at stepped
    · cases stepped
      trivial
    · exact quoted_of_start _ next nextMode char stepped

theorem begins_line_of_step (quoted : mode.Quoted) (rest : List Char)
    (stepped : scan.step mode '\n' rest = .ok (next, nextMode)) : nextMode.BeginsLine := by
  cases mode with
  | escape quote =>
    cases stepped
    exact quoted
  | string quote => cases stepped
  | _ =>
    cases stepped
    trivial

/-- A step reads ahead only to find an equals sign. -/
theorem step_congr (char : Char) (first second : List Char)
    (same : beginsAssignment (char :: first) = beginsAssignment (char :: second)) :
    scan.step mode char first = scan.step mode char second := by
  cases mode with
  | word letters => rw [step, step, endWord, endWord, same]
  | _ => rfl

theorem run_cons_congr (char : Char) (first second : List Char)
    (same : beginsAssignment (char :: first) = beginsAssignment (char :: second))
    (behind : ∀ next nextMode, scan.step mode char first = .ok (next, nextMode) →
      next.run nextMode first = next.run nextMode second) :
    scan.run mode (char :: first) = scan.run mode (char :: second) := by
  rw [run_cons, run_cons, ← scan.step_congr mode char first second same]
  cases stepped : scan.step mode char first with
  | error error => rfl
  | ok result => exact behind result.1 result.2 stepped

theorem step_indent (char : Char) (rest : List Char) (indents : isIndent char = true)
    (begins : mode.BeginsLine) : scan.step mode char rest = .ok (scan, mode) := by
  rw [isIndent, Bool.or_eq_true, beq_iff_eq, beq_iff_eq] at indents
  cases mode with
  | code => rcases indents with rfl | rfl <;> rfl
  | string quote =>
    have quotes : quote = '"' ∨ quote = '\x27' := by
      simpa [Mode.BeginsLine, isQuote] using begins
    rcases indents with rfl | rfl <;> rcases quotes with rfl | rfl <;> rfl
  | _ => exact begins.elim

/-- The scan goes the same way through both texts. Where it comes to the beginning of a line, it is
in the code or in a string. -/
theorem run_outdented (fresh : Bool) (first second : List Char)
    (outdented : Outdented fresh first second) (quoted : mode.Quoted)
    (begins : fresh = true → mode.BeginsLine) : scan.run mode first = scan.run mode second := by
  induction outdented generalizing scan mode with
  | nil => rfl
  | lineFeed behind induction =>
    refine scan.run_cons_congr mode '\n' _ _ ?_ ?_
    · rfl
    intro next nextMode stepped
    apply induction next nextMode (scan.quoted_of_step next mode nextMode quoted '\n' _ stepped)
    intro _
    exact scan.begins_line_of_step next mode nextMode quoted _ stepped
  | kept char behind induction =>
    apply scan.run_cons_congr mode char _ _
      (begins_assignment_of_outdented _ _ (.kept char behind))
    intro next nextMode stepped
    apply induction next nextMode (scan.quoted_of_step next mode nextMode quoted char _ stepped)
    intro impossible
    exact Bool.noConfusion impossible
  | omitted char indents behind induction =>
    rw [run_cons, scan.step_indent mode char _ indents (begins rfl)]
    exact induction scan mode quoted begins

end Scan

theorem symbols_dedent (code : String) : symbols (dedent code) = symbols code := by
  rw [symbols, symbols, dedent, String.toList_ofList]
  exact (Scan.initial.run_outdented .code true _ _ (outdented_dedent code.toList) trivial
    fun _ => trivial).symm

/-- The names of a block, or the fault in it, are those of the code as it is written. -/
theorem symbols_of_fragment (name code : String) (given : Context) :
    (CodeBlock.ofFragment name code given).map CodeBlock.symbols = symbols code := by
  rw [CodeBlock.ofFragment, CodeBlock.build, symbols_dedent]
  cases symbols code with
  | error error => rfl
  | ok names => rfl

/-- Indentation makes no difference to the names that a fragment uses, nor to the fault that is
found in it and the line and words in which it is reported. -/
theorem indentation_irrelevant (code : String) :
    symbols (dedent code) = symbols code ∧
      ∀ name given, (CodeBlock.ofFragment name code given).map CodeBlock.symbols = symbols code :=
  ⟨symbols_dedent code, fun name given => symbols_of_fragment name code given⟩

end Scanning

end PairLoop.Fragment
