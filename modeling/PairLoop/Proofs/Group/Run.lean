import PairLoop.Group.Wrappers
import PairLoop.Proofs.Group.Resolution
import PairLoop.Proofs.Group.Update

/-!
Runs of a group through edits, updates and the generation of wrappers. All along, what the group
has resolved belongs to the equations of the last update that succeeded, whatever has been done
to the equations since.
-/

namespace PairLoop.Group

inductive Action
  | edit (change : List Equation → List Equation)
  | update
  | wrappers {State : Type} (generate : Generator State) (state : State)

/-- A group in use, with the equations of the last construction or update that succeeded. -/
structure Session where
  resolved : List Equation
  group : Group

namespace Session

def after (session : Session) : Action → Session
  | .edit change =>
    { session with group := session.group.withEquations (change session.group.equations) }
  | .update =>
    match refresh session.group with
    | (.ok _, next) => ⟨session.group.equations, next⟩
    | (.error _, next) => ⟨session.resolved, next⟩
  | .wrappers generate state =>
    { session with group := (session.group.wrappers generate state).1 }

def run (session : Session) (actions : List Action) : Session := actions.foldl after session

/-- The group holds what the library gives for the equations that it was last resolved for. -/
structure Consistent (library : Library) (config : Config) (session : Session) : Prop where
  same_library : session.group.library = library
  same_config : session.group.config = config
  resolves : Resolution.resolve library config session.resolved = .ok session.group.resolution

variable {library : Library} {config : Config}

theorem consistent_of_assembled (equations : List Equation) (group : Group)
    (constructed : assemble library config equations = .ok group) :
    Consistent library config ⟨equations, group⟩ := by
  obtain ⟨resolution, resolves, rfl⟩ := (update_eq_ok_iff _ group).1 constructed
  exact ⟨rfl, rfl, resolves⟩

theorem consistent_after (session : Session) (action : Action)
    (consistent : Consistent library config session) :
    Consistent library config (session.after action) := by
  rcases consistent with ⟨rfl, rfl, resolves⟩
  cases action with
  | edit change => exact ⟨rfl, rfl, resolves⟩
  | update =>
    unfold after
    rw [refresh_eq]
    cases found : Resolution.resolve session.group.library session.group.config
        session.group.equations with
    | error error => exact ⟨rfl, rfl, resolves⟩
    | ok resolution => exact ⟨rfl, rfl, found⟩
  | wrappers generate state => exact ⟨rfl, rfl, resolves⟩

theorem consistent_run (session : Session) (actions : List Action)
    (consistent : Consistent library config session) :
    Consistent library config (session.run actions) := by
  induction actions generalizing session with
  | nil => exact consistent
  | cons action rest induction =>
    exact induction (session.after action) (consistent_after session action consistent)

/-- What is consistent has the resolution of a construction from its resolved equations. -/
theorem exists_assembled_of_consistent (session : Session)
    (consistent : Consistent library config session) :
    ∃ fresh, assemble library config session.resolved = .ok fresh ∧
      session.group.resolution = fresh.resolution := by
  refine ⟨settled ⟨library, config, session.resolved, .blank⟩ session.group.resolution, ?_, rfl⟩
  apply (update_eq_ok_iff ..).2
  exact ⟨session.group.resolution, consistent.resolves, rfl⟩

end Session

/-- After any run a group holds the resolution that a construction from the equations of its last
construction or update would give it. A further update either fails and changes nothing, or it
renames variables only, and then one more changes nothing. -/
theorem resolution_of_run (library : Library) (config : Config) (equations : List Equation)
    (group : Group) (constructed : assemble library config equations = .ok group)
    (actions : List Action) :
    let session := Session.run ⟨equations, group⟩ actions
    session.group.library = library ∧ session.group.config = config ∧
    (∃ fresh, assemble library config session.resolved = .ok fresh ∧
      session.group.resolution = fresh.resolution) ∧
    (∀ error next, refresh session.group = (.error error, next) → next = session.group) ∧
    (∀ next, refresh session.group = (.ok (), next) →
      next.equations.map Equation.unnamed = session.group.equations.map Equation.unnamed ∧
        refresh next = (.ok (), next)) := by
  intro session
  have consistent : Session.Consistent library config session := by
    apply Session.consistent_run
    exact Session.consistent_of_assembled equations group constructed
  refine ⟨consistent.same_library, consistent.same_config, ?_, ?_, ?_⟩
  · exact Session.exists_assembled_of_consistent session consistent
  · intro error next refused
    exact eq_of_refresh_error session.group next error refused
  · intro next updated
    obtain ⟨resolution, found, rfl⟩ := settled_of_refresh_ok session.group next updated
    constructor
    · exact unnamed_name_variables [] session.group.equations
    · exact refresh_settled session.group resolution found

/-- The equations are exchanged for others whose blocks form a cycle. Neither the update that this
makes fail nor the generator that gives up touches what was resolved before. -/
theorem resolution_of_run_past_a_cycle :
    let library := Library.ofUses [("a", ["b"]), ("b", []), ("p", ["q"]), ("q", ["p"])]
    let drag := (Equation.ofClass "Drag" "fluid" ["fluid"]).withBehavior .perPair ["self", "a"]
    let push := (Equation.ofClass "Push" "fluid" ["fluid"]).withBehavior .perPair ["self", "q"]
    let quit : Generator Nat := fun equation count =>
      (.error ⟨equation.className, "no template"⟩, count + 1)
    ∃ group, assemble library .standard [drag] = .ok group ∧
      let session := Session.run ⟨[drag], group⟩
        [.edit fun _ => [push, push], .update, .wrappers quit 0]
      session.resolved = [drag] ∧
      session.group.equations.map Equation.variableName = ["push0", "push1"] ∧
      session.group.resolution.precomputed.names = ["b", "a"] ∧
      ∃ fresh, assemble library .standard session.resolved = .ok fresh ∧
        session.group.resolution = fresh.resolution := by
  intro library drag push quit
  have evaluated : (assemble library .standard [drag]).map (fun group =>
      let session := Session.run ⟨[drag], group⟩
        [.edit fun _ => [push, push], .update, .wrappers quit 0]
      (session.resolved, session.group.equations.map Equation.variableName,
        session.group.resolution.precomputed.names)) =
          .ok ([drag], ["push0", "push1"], ["b", "a"]) := by
    decide +kernel
  obtain ⟨group, assembled, outcome⟩ := (except_map_eq_ok_iff ..).1 evaluated
  simp only [Prod.mk.injEq] at outcome
  refine ⟨group, assembled, outcome.1, outcome.2.1, outcome.2.2, ?_⟩
  exact (resolution_of_run library .standard [drag] group assembled _).2.2.1

end PairLoop.Group
