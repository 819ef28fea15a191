import PairLoop.Group.Code
import PairLoop.Proofs.Group.Reachable
import PairLoop.Proofs.Kernel.Tokens
import PairLoop.Proofs.Name.Lowered

/-!
Filling a kernel in part by part. The tokens are replaced in the whole text of a phase, but no
replacement reaches over what stands between its parts, and the names of variables have no capitals.
So every fragment, receiver and argument is filled in by itself, and a call with a kernel goes to
the variable that is declared.
-/

namespace PairLoop

open Kernel (Plain substitute)

/-- Tokens begin with capitals, and the name of a variable has none. -/
theorem Equation.plain_variable_name (equation : Equation) (labelled : equation.Labelled) :
    Plain equation.variableName.toList := by
  have small : ∀ char ∈ equation.variableName.toList, char.isUpper = false := by
    intro char member
    rcases labelled with unnamed | ⟨name, number, named⟩
    · rw [unnamed] at member
      exact absurd member List.not_mem_nil
    · rw [named, String.toList_append, List.mem_append] at member
      rcases member with inBase | inNumber
      · exact Name.not_upper_of_mem_underscored name char inBase
      · rw [Nat.toString_eq_repr, Nat.toList_repr] at inNumber
        have digit := Nat.isDigit_of_mem_toDigits (by decide) (by decide) inNumber
        exact Unicode.not_upper_of_digit char digit
  constructor
  · intro member
    exact Bool.noConfusion (small _ member)
  · intro member
    exact Bool.noConfusion (small _ member)

theorem Phase.plain_method (phase : Phase) : Plain phase.method.toList := by
  cases phase <;> decide

namespace Group

section Writing

variable (write : String → String)

/-- The call of an equation, in which a function writes the receiver and the arguments. -/
def writtenCall (receiver : String) (equation : Equation) (phase : Phase) (behavior : Behavior) :
    String :=
  write receiver ++ "." ++ equation.variableName ++ "." ++ phase.method ++ "(" ++
    String.intercalate ", " ((behavior.arguments receiver).map write) ++ ")"

def writtenCalls (group : Group) (phase : Phase) : List String :=
  group.equations.filterMap fun equation =>
    (equation.behavior? phase).map (writtenCall write group.config.receiver equation phase)

/-- The fragments of the resolved blocks, trimmed and then written by a function. -/
def writtenFragments (group : Group) : List String :=
  group.resolution.precomputed.values.map fun block =>
    write (String.ofList (Unicode.trim block.code.toList))

/-- Lines with an empty line behind them, unless there are none. -/
def spaced (lines : List String) : List String := if lines.isEmpty then [] else lines ++ [""]

/-- The code of a phase line by line, a fragment in one piece, where a function writes each
fragment, each receiver and each argument by itself. -/
def writtenLines (group : Group) (phase : Phase) : List String :=
  (if phase = .perPair then spaced (writtenFragments write group) else []) ++
    spaced (writtenCalls write group phase)

end Writing

theorem spaced_map {Line : Type} (lines : List String) (change : String → Line) :
    (spaced lines).map change =
      if (lines.map change).isEmpty then [] else lines.map change ++ [change ""] := by
  cases lines <;> simp [spaced]

/-- Without a kernel the lines are as they are. -/
theorem code_eq_written_lines (group : Group) (phase : Phase) :
    group.code phase none = String.intercalate "\n" (writtenLines id group phase) := by
  have calls : (writtenCalls id group phase).map String.toList = group.stubs phase := by
    unfold writtenCalls stubs
    rw [List.map_filterMap]
    apply List.filterMap_congr
    intro equation _
    rw [Option.map_map]
    apply congrArg (Option.map · (equation.behavior? phase))
    funext behavior
    simp [writtenCall, stub, String.toList_intercalate]
  have fragments : (writtenFragments id group).map String.toList = group.fragments := by
    unfold writtenFragments fragments
    rw [List.map_map]
    apply List.map_congr_left
    intro block _
    exact String.toList_ofList
  have parts : (writtenLines id group phase).map String.toList = group.codeParts phase := by
    unfold writtenLines codeParts
    rw [List.map_append, spaced_map, calls]
    split
    · rw [spaced_map, fragments]
      rfl
    · rfl
  apply String.toList_inj.1
  rw [String.toList_intercalate, parts]
  simp [code, substitute, Kernel.fillOptional]

section Filling

variable (kernel : Kernel) (config : Config)

theorem substitute_written_call (receiver : String) (equation : Equation) (phase : Phase)
    (behavior : Behavior) (plain : Plain equation.variableName.toList) :
    substitute (some kernel) config (writtenCall id receiver equation phase behavior) =
      writtenCall (substitute (some kernel) config) receiver equation phase behavior := by
  unfold writtenCall
  -- The parts are joined from the left, so the last separator is taken off first.
  rw [kernel.substitute_trailing config ")" (by decide),
    kernel.substitute_between config "(" (by decide),
    kernel.substitute_between config "." (by decide),
    kernel.substitute_between config "." (by decide),
    kernel.substitute_intercalate config ", " (by decide),
    kernel.substitute_of_plain config equation.variableName plain,
    kernel.substitute_of_plain config phase.method phase.plain_method, List.map_id, id]

theorem substitute_written_lines (group : Group) (phase : Phase)
    (plain : ∀ equation ∈ group.equations, Plain equation.variableName.toList) :
    (writtenLines id group phase).map (substitute (some kernel) config) =
      writtenLines (substitute (some kernel) config) group phase := by
  have calls : (writtenCalls id group phase).map (substitute (some kernel) config) =
      writtenCalls (substitute (some kernel) config) group phase := by
    unfold writtenCalls
    rw [List.map_filterMap]
    apply List.filterMap_congr
    intro equation member
    rw [Option.map_map]
    apply congrArg (Option.map · (equation.behavior? phase))
    funext behavior
    exact substitute_written_call kernel config _ equation phase behavior (plain equation member)
  have fragments : (writtenFragments id group).map (substitute (some kernel) config) =
      writtenFragments (substitute (some kernel) config) group := by
    unfold writtenFragments
    rw [List.map_map]
    rfl
  have empty : substitute (some kernel) config "" = "" := rfl
  unfold writtenLines
  rw [List.map_append, spaced_map, calls, empty]
  split
  · rw [spaced_map, fragments, empty]
    rfl
  · rfl

end Filling

/-- The code of a phase with a kernel has the lines of the code without one. In each of them the
kernel is filled in the fragment, or in the receiver and every argument, by itself, and the names of
the variables stay those that are declared. -/
theorem code_filled_in_parts (group : Group) (reachable : group.Reachable) (phase : Phase)
    (kernel : Kernel) :
    group.code phase none = String.intercalate "\n" (writtenLines id group phase) ∧
    group.code phase (some kernel) =
      String.intercalate "\n" (writtenLines (substitute (some kernel) group.config) group phase) ∧
    ∀ equation ∈ group.equations,
      substitute (some kernel) group.config equation.variableName = equation.variableName := by
  have plain : ∀ equation ∈ group.equations, Plain equation.variableName.toList := by
    intro equation member
    exact equation.plain_variable_name (labelled_of_reachable group reachable equation member)
  refine ⟨code_eq_written_lines group phase, ?_, ?_⟩
  · have whole : group.code phase (some kernel) =
        substitute (some kernel) group.config (group.code phase none) := by
      simp [code, substitute, Kernel.fillOptional]
    rw [whole, code_eq_written_lines, kernel.substitute_intercalate _ "\n" (by decide),
      substitute_written_lines kernel group.config group phase plain]
  · intro equation member
    exact kernel.substitute_of_plain group.config equation.variableName (plain equation member)

/-- A class is called like a token, a block and a parameter use the tokens. -/
theorem code_filled_in_parts_of_probe :
    let block : CodeBlock :=
      ⟨"WIJ", "\n  WIJ = KERNEL(XIJ)\n", .ofList ["KERNEL", "WIJ", "XIJ"], ∅, none⟩
    let probe := (Equation.ofClass "KERNELProbe" "fluid" ["fluid"]).withBehavior .perPair
      ["self", "WIJ", "GRADIENT"]
    ∃ group, assemble (.ofBlocks [block]) .standard [probe] = .ok group ∧ group.Reachable ∧
      group.code .perPair (some ⟨"self.k"⟩) =
        "WIJ = self.k.kernel(XIJ)\n\nself.kernel_probe0.loop(WIJ, self.k.gradient)\n" ∧
      group.code .perPair (some ⟨"self.k"⟩) =
        String.intercalate "\n"
          (writtenLines (substitute (some ⟨"self.k"⟩) group.config) group .perPair) := by
  intro block probe
  have evaluated : (assemble (.ofBlocks [block]) .standard [probe]).map
      (fun group => group.code .perPair (some ⟨"self.k"⟩)) =
        .ok "WIJ = self.k.kernel(XIJ)\n\nself.kernel_probe0.loop(WIJ, self.k.gradient)\n" := by
    decide +kernel
  obtain ⟨group, assembled, code⟩ := (except_map_eq_ok_iff ..).1 evaluated
  have built : ∀ equation ∈ [probe], equation.Available := by
    intro equation member
    rw [List.mem_singleton.1 member]
    exact .withBehavior _ _ _ (.ofClass "KERNELProbe" "fluid" ["fluid"])
  have reachable := Reachable.assembled _ .standard [probe] group built assembled
  have filled := code_filled_in_parts group reachable .perPair ⟨"self.k"⟩
  exact ⟨group, assembled, reachable, code, filled.2.1⟩

end Group

end PairLoop
