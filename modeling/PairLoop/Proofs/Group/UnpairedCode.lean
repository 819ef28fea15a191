import Mathlib.Data.List.Forall2
import PairLoop.Group.Code
import PairLoop.Proofs.Dependency.Reach
import PairLoop.Proofs.Group.Update

/-!
The code of the phases outside the pair loop. It shows the names of the variables, which come from
classes and display names, and what the equations do in the phase itself. Nothing that was resolved
for pair code gets into it, so neither does the library.
-/

namespace PairLoop

namespace Equation

/-- Equations that differ at most in what they do in other phases, in the particles they act on and
in their variables. -/
structure AlikeIn (phase : Phase) (first second : Equation) : Prop where
  className : first.className = second.className
  displayName : first.displayName = second.displayName
  behavior : first.behavior? phase = second.behavior? phase

/-- Equations that are called in the same way in a phase, if at all. -/
structure CalledAlike (phase : Phase) (first second : Equation) : Prop where
  variableName : first.variableName = second.variableName
  behavior : first.behavior? phase = second.behavior? phase

theorem behavior_with_variable (equation : Equation) (name : String) (phase : Phase) :
    Equation.behavior? { equation with variableName := name } phase =
      equation.behavior? phase := by
  cases phase <;> rfl

end Equation

section Lists

variable (phase : Phase) (equations others : List Equation)

/-- Variables are named after classes and display names, by position. -/
theorem called_alike_of_named (alike : List.Forall₂ (Equation.AlikeIn phase) equations others)
    (earlier : List String) :
    List.Forall₂ (Equation.CalledAlike phase) (nameVariables earlier equations)
      (nameVariables earlier others) := by
  induction alike generalizing earlier with
  | nil => exact .nil
  | @cons equation other _ _ same _ induction =>
    refine .cons ⟨?_, ?_⟩ ?_
    · change Name.underscored equation.displayName ++ toString (earlier.count equation.className) =
        Name.underscored other.displayName ++ toString (earlier.count other.className)
      rw [same.displayName, same.className]
    · rw [Equation.behavior_with_variable, Equation.behavior_with_variable]
      exact same.behavior
    · rw [same.className]
      exact induction (other.className :: earlier)

theorem stubs_of_called_alike (receiver : String)
    (alike : List.Forall₂ (Equation.CalledAlike phase) equations others) :
    (equations.filterMap fun equation =>
        (equation.behavior? phase).map (Group.stub receiver equation phase)) =
      others.filterMap fun equation =>
        (equation.behavior? phase).map (Group.stub receiver equation phase) := by
  induction alike with
  | nil => rfl
  | @cons equation other _ _ same _ induction =>
    have stub : Group.stub receiver equation phase = Group.stub receiver other phase := by
      funext behavior
      unfold Group.stub
      rw [same.variableName]
    rw [List.filterMap_cons, List.filterMap_cons, same.behavior, stub, induction]

end Lists

/-- Whether unknown names are reported does not show in how a kernel is filled in. -/
theorem Kernel.substitute_with_strict (kernel : Option Kernel) (config : Config) (strict : Bool)
    (code : String) :
    substitute kernel { config with strict := strict } code = substitute kernel config code := by
  cases kernel <;> rfl

namespace Group

theorem code_of_unpaired (group : Group) (phase : Phase) (unpaired : phase ≠ .perPair)
    (kernel : Option Kernel) :
    group.code phase kernel = Kernel.substitute kernel group.config
      (String.ofList (['\n'].intercalate (paragraph (group.stubs phase)))) := by
  unfold code codeParts
  rw [if_neg unpaired, List.nil_append]

theorem code_of_called_alike (first second : Group) (phase : Phase) (unpaired : phase ≠ .perPair)
    (strict : Bool) (sameConfig : { first.config with strict := strict } = second.config)
    (alike : List.Forall₂ (Equation.CalledAlike phase) first.equations second.equations)
    (kernel : Option Kernel) : first.code phase kernel = second.code phase kernel := by
  have sameReceiver : first.config.receiver = second.config.receiver := by rw [← sameConfig]
  have stubs : first.stubs phase = second.stubs phase := by
    unfold stubs
    rw [sameReceiver]
    exact stubs_of_called_alike phase _ _ second.config.receiver alike
  rw [code_of_unpaired _ phase unpaired, code_of_unpaired _ phase unpaired, stubs, ← sameConfig]
  exact (Kernel.substitute_with_strict kernel first.config strict _).symm

/-- The setup and the finalizing code of two groups are the same if their equations have the same
classes, display names and behaviors of that phase, one by one. The libraries, all that the
equations do in other phases and whether unknown names are reported make no difference. -/
theorem code_outside_pairs_congr (phase : Phase) (unpaired : phase ≠ .perPair)
    (library otherLibrary : Library) (config : Config) (strict : Bool)
    (equations others : List Equation)
    (alike : List.Forall₂ (Equation.AlikeIn phase) equations others) (group other : Group)
    (assembled : assemble library config equations = .ok group)
    (otherAssembled : assemble otherLibrary { config with strict := strict } others = .ok other)
    (kernel : Option Kernel) : group.code phase kernel = other.code phase kernel := by
  obtain ⟨resolution, _, rfl⟩ := eq_of_assembled_or_updated _ _ _ group (.inl assembled)
  obtain ⟨otherResolution, _, rfl⟩ := eq_of_assembled_or_updated _ _ _ other (.inl otherAssembled)
  have called := called_alike_of_named phase equations others alike []
  apply code_of_called_alike _ _ phase unpaired strict
  · rfl
  · exact called

/-- One group resolves "b" and "a" for its pair code and the other, which has no block, nothing. -/
theorem code_outside_pairs_congr_without_library :
    let equation := (Equation.ofClass "TaitEOS" "fluid" ["fluid"]).withBehavior .setup
      ["self", "d_rho", "KERNEL"]
    let library := Library.ofUses [("a", ["b"]), ("b", [])]
    let equations := [equation.withBehavior .perPair ["self", "a"], equation]
    let others := [equation, equation.withBehavior .finalize ["self", "s_m"]]
    ∃ group other, assemble library .standard equations = .ok group ∧
      group.resolution.precomputed.names = ["b", "a"] ∧
      assemble ∅ .strictStandard others = .ok other ∧
      other.resolution.precomputed.names = [] ∧
      ∀ kernel, group.code .setup kernel = other.code .setup kernel := by
  intro equation library equations others
  have evaluated : (assemble library .standard equations).map
      (fun group => group.resolution.precomputed.names) = .ok ["b", "a"] := by
    decide +kernel
  have otherEvaluated : (assemble ∅ .strictStandard others).map
      (fun group => group.resolution.precomputed.names) = .ok [] := by
    decide +kernel
  obtain ⟨group, assembled, names⟩ := (except_map_eq_ok_iff ..).1 evaluated
  obtain ⟨other, otherAssembled, otherNames⟩ := (except_map_eq_ok_iff ..).1 otherEvaluated
  refine ⟨group, other, assembled, names, otherAssembled, otherNames, ?_⟩
  have alike : List.Forall₂ (Equation.AlikeIn .setup) equations others :=
    .cons ⟨rfl, rfl, rfl⟩ (.cons ⟨rfl, rfl, rfl⟩ .nil)
  exact code_outside_pairs_congr .setup (by decide) library ∅ .standard true equations others alike
    group other assembled otherAssembled

end Group

end PairLoop
