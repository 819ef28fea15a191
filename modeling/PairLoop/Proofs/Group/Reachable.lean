import PairLoop.Group.Wrappers
import PairLoop.Proofs.Group.Update

/-!
What groups can come to. Equations are built, changed, taken out of groups and put into others, and
only groups name variables. So a variable has no name, or one that is made of some display name and
a number, though it need not be the name that its equation displays by now.
-/

namespace PairLoop

mutual

/-- Equations that can be come by: built, changed, or taken out of a group. -/
inductive Equation.Available : Equation → Prop
  | ofClass (className destination : String) (sources : List String) :
      Equation.Available (.ofClass className destination sources)
  | named (equation : Equation) (name : String) (available : Equation.Available equation) :
      Equation.Available (equation.named name)
  | withBehavior (equation : Equation) (phase : Phase) (parameters : List String)
      (available : Equation.Available equation) :
      Equation.Available (equation.withBehavior phase parameters)
  | taken (group : Group) (equation : Equation) (reachable : Group.Reachable group)
      (member : equation ∈ group.equations) : Equation.Available equation

/-- Groups that construction, edits, updates and the generation of wrappers lead to. -/
inductive Group.Reachable : Group → Prop
  | assembled (library : Library) (config : Config) (equations : List Equation) (group : Group)
      (available : ∀ equation ∈ equations, Equation.Available equation)
      (constructed : Group.assemble library config equations = .ok group) :
      Group.Reachable group
  | edited (group : Group) (equations : List Equation) (reachable : Group.Reachable group)
      (available : ∀ equation ∈ equations, Equation.Available equation) :
      Group.Reachable (group.withEquations equations)
  /-- An update that may have failed. -/
  | updated (group : Group) (reachable : Group.Reachable group) :
      Group.Reachable (Group.refresh group).2
  | wrapped {State : Type} (group : Group) (generate : Generator State) (state : State)
      (reachable : Group.Reachable group) : Group.Reachable (group.wrappers generate state).1

end

/-- What holds of constructed groups and is kept by edits, updates and the generation of wrappers
holds of all groups that can be come to, whatever equations are put into them. -/
@[elab_as_elim]
theorem Group.Reachable.induct {motive : (group : Group) → group.Reachable → Prop}
    (assembled : ∀ library config equations group available
      (constructed : Group.assemble library config equations = .ok group),
      motive group (.assembled library config equations group available constructed))
    (edited : ∀ group equations reachable available, motive group reachable →
      motive (group.withEquations equations) (.edited group equations reachable available))
    (updated : ∀ group reachable, motive group reachable →
      motive (Group.refresh group).2 (.updated group reachable))
    (wrapped : ∀ (State : Type) group (generate : Generator State) (state : State) reachable,
      motive group reachable →
      motive (group.wrappers generate state).1 (.wrapped group generate state reachable))
    {group : Group} (reachable : group.Reachable) : motive group reachable := by
  apply @Group.Reachable.rec (fun _ _ => True) motive
  case ofClass => intros; trivial
  case named => intros; trivial
  case withBehavior => intros; trivial
  case taken => intros; trivial
  case assembled =>
    intro library config equations group available constructed _
    exact assembled library config equations group available constructed
  case edited =>
    intro group equations reachable available kept _
    exact edited group equations reachable available kept
  case updated => exact updated
  case wrapped =>
    intro State group generate state reachable kept
    exact wrapped State group generate state reachable kept

/-- The equation's variable is unnamed or named by a display name with underscores and a number. -/
def Equation.Labelled (equation : Equation) : Prop :=
  equation.variableName = "" ∨
    ∃ (name : String) (number : Nat),
      equation.variableName = Name.underscored name ++ toString number

theorem labelled_of_named (earlier : List String) (equations : List Equation) :
    ∀ equation ∈ nameVariables earlier equations, equation.Labelled := by
  induction equations generalizing earlier with
  | nil =>
    intro equation member
    exact absurd member List.not_mem_nil
  | cons first rest induction =>
    intro equation member
    rw [nameVariables, List.mem_cons] at member
    rcases member with same | later
    · exact .inr ⟨first.displayName, earlier.count first.className, by rw [same]⟩
    · exact induction (first.className :: earlier) equation later

theorem Group.labelled_of_refreshed (group : Group)
    (labelled : ∀ equation ∈ group.equations, equation.Labelled) :
    ∀ equation ∈ (refresh group).2.equations, equation.Labelled := by
  rw [refresh_eq]
  cases Resolution.resolve group.library group.config group.equations with
  | error error => exact labelled
  | ok resolution => exact labelled_of_named [] group.equations

mutual

/-- Changing an equation keeps the name of its variable. -/
theorem Equation.labelled_of_available : ∀ equation : Equation, equation.Available →
    equation.Labelled
  | _, .ofClass _ _ _ => .inl rfl
  | _, .named equation _ available => Equation.labelled_of_available equation available
  | _, .withBehavior equation phase _ available => by
    have labelled := Equation.labelled_of_available equation available
    cases phase with
    | setup => exact labelled
    | perPair => exact labelled
    | finalize => exact labelled
  | _, .taken group equation reachable member =>
    Group.labelled_of_reachable group reachable equation member

theorem Group.labelled_of_reachable : ∀ group : Group, group.Reachable →
    ∀ equation ∈ group.equations, equation.Labelled
  | _, .assembled _ _ equations group _ constructed => by
    obtain ⟨resolution, _, rfl⟩ := (Group.update_eq_ok_iff _ group).1 constructed
    exact labelled_of_named [] equations
  -- Only an edit brings in names that another group has given.
  | _, .edited _ _ _ available => fun equation member =>
    Equation.labelled_of_available equation (available equation member)
  | _, .updated group reachable =>
    group.labelled_of_refreshed (Group.labelled_of_reachable group reachable)
  | _, .wrapped group _ _ _ => labelled_of_named [] group.equations

end

end PairLoop
