import PairLoop.Proofs.Dependency.Component
import PairLoop.Proofs.Dependency.Weight

/-!
What is told of names that cannot be ordered. The names left without a weight are those from which a
cycle can be reached: a name on the way to a cycle waits for the next one, and a name with a weight
begins chains of bounded length only. All cycles lie within the names that are left, so their
strongly connected components tell the names on a cycle from those that are blocked by one.
-/

namespace PairLoop

open Relation Dependency

namespace Dependency

/-- The names of a set that are left without a weight. -/
def stuckNames (uses : String → NameSet) (names : NameSet) : List String :=
  (settle (dependencies uses names) names.size ∅ names.toList).2

section Stuck

variable {uses : String → NameSet} {names : NameSet}

theorem stuck_subset (name : String) (stuck : name ∈ stuckNames uses names) : name ∈ names :=
  (settle_sublist (dependencies uses names) names.size ∅ names.toList).subset stuck

theorem chain_of_leads_to_cycle (name other : String)
    (path : ReflTransGen (Depends uses names.toList) name other)
    (cycle : TransGen (Depends uses names.toList) other other) (length : Nat) :
    Chain uses names.toList name length := by
  rcases reflTransGen_iff_eq_or_transGen.1 path with same | steps
  · exact same ▸ chain_of_cycle other cycle length
  · have long := chain_of_path name other length steps (chain_of_cycle other cycle length)
    exact chain_cut name length long

/-- The names that are left are those from which a cycle can be reached. -/
theorem mem_stuck_iff (name : String) :
    name ∈ stuckNames uses names ↔
      ∃ other, ReflTransGen (Depends uses names.toList) name other ∧
        TransGen (Depends uses names.toList) other other := by
  constructor
  · intro stuck
    obtain ⟨other, path, cycle⟩ := leads_to_cycle (stuck_continued uses names) name stuck
    have wider := depends_of_subset uses (stuckNames uses names) names.toList
      fun _ left => stuck_subset _ left
    exact ⟨other, ReflTransGen.mono wider _ _ path, TransGen.mono wider _ _ cycle⟩
  · intro leads
    rcases leads with ⟨other, path, cycle⟩
    have chains := chain_of_leads_to_cycle name other path cycle
    have underway := (settle_spec names.size ∅ names.toList (underway_initially uses names)
      (Nat.le_refl _)).1
    rcases (underway.complete name).2 ((chain_zero_iff name).1 (chains 0)) with weighed | stuck
    · obtain ⟨weight, found⟩ := Bindings.exists_find _ name weighed
      have bounded := (underway.sound name weight found).2 (weight + 1) (chains (weight + 1))
      omega
    · exact stuck

theorem stuck_of_path (name other : String)
    (path : ReflTransGen (Depends uses names.toList) name other)
    (stuck : other ∈ stuckNames uses names) : name ∈ stuckNames uses names := by
  obtain ⟨last, rest, cycle⟩ := (mem_stuck_iff other).1 stuck
  exact (mem_stuck_iff name).2 ⟨last, path.trans rest, cycle⟩

/-- No way to a name that is left passes through one that is not. -/
theorem path_in_stuck (name other : String)
    (path : TransGen (Depends uses names.toList) name other)
    (stuck : other ∈ stuckNames uses names) :
    TransGen (Depends uses (stuckNames uses names)) name other := by
  induction path using TransGen.head_induction_on with
  | single depends =>
    exact .single ⟨stuck_of_path _ other (.single depends) stuck, stuck, depends.2.2⟩
  | head depends rest induction =>
    have nextStuck := stuck_of_path _ other rest.to_reflTransGen stuck
    have first := stuck_of_path _ _ (.single depends) nextStuck
    exact .head ⟨first, nextStuck, depends.2.2⟩ induction

theorem cycle_in_stuck_iff (name : String) :
    TransGen (Depends uses (stuckNames uses names)) name name ↔
      TransGen (Depends uses names.toList) name name := by
  constructor
  · exact TransGen.mono (depends_of_subset uses (stuckNames uses names) names.toList
      fun _ left => stuck_subset _ left) name name
  · intro cycle
    exact path_in_stuck name name cycle ((mem_stuck_iff name).2 ⟨name, .refl, cycle⟩)

/-- An edge leads to a name from each one that it waits for. -/
theorem waiting_edge_eq :
    (waitingGraph (dependencies uses names) (stuckNames uses names)).Edge =
      Function.swap (Depends uses (stuckNames uses names)) := by
  funext used name
  apply propext
  unfold Graph.Edge waitingGraph Function.swap
  simp only [List.mem_flatMap, List.mem_map, List.mem_filter, List.contains_iff_mem,
    Prod.mk.injEq]
  constructor
  · intro drawn
    rcases drawn with ⟨owner, left, source, ⟨waited, usedLeft⟩, rfl, rfl⟩
    have depends := (mem_dependencies_iff owner source (stuck_subset owner left)).1 waited
    exact ⟨left, usedLeft, depends.2.2⟩
  · intro depends
    rcases depends with ⟨left, usedLeft, uses⟩
    have waited := (mem_dependencies_iff name used (stuck_subset name left)).2
      ⟨stuck_subset name left, stuck_subset used usedLeft, uses⟩
    exact ⟨name, left, used, ⟨waited, usedLeft⟩, rfl, rfl⟩

end Stuck

section Error

variable (split : Graph → List (List String)) (splits : ∀ graph : Graph, graph.Splits (split graph))
  (uses : String → NameSet) (names : NameSet)

theorem schedule_by_of_cyclic (cyclic : Cyclic uses names.toList) :
    scheduleBy split uses names =
      .error (cycleError split (dependencies uses names) (stuckNames uses names)) := by
  rcases cyclic with ⟨name, cycle⟩
  have stuck : name ∈ stuckNames uses names := (mem_stuck_iff name).2 ⟨name, .refl, cycle⟩
  unfold scheduleBy stuckNames at *
  cases settled : settle (dependencies uses names) names.size ∅ names.toList with
  | mk weights left =>
    rw [settled] at stuck
    cases left with
    | nil => exact absurd stuck List.not_mem_nil
    | cons first rest => rfl

include splits

theorem mem_cycle_iff (name : String) :
    name ∈ (cycleError split (dependencies uses names) (stuckNames uses names)).cycle ↔
      TransGen (Depends uses names.toList) name name := by
  unfold cycleError
  rw [NameSet.mem_to_list, NameSet.mem_of_list, Graph.mem_cyclic_parts_iff (splits _),
    waiting_edge_eq, transGen_swap, cycle_in_stuck_iff]

theorem mem_blocked_iff (name : String) :
    name ∈ (cycleError split (dependencies uses names) (stuckNames uses names)).blocked ↔
      ¬ TransGen (Depends uses names.toList) name name ∧
        ∃ other, TransGen (Depends uses names.toList) name other ∧
          TransGen (Depends uses names.toList) other other := by
  have onCycle := mem_cycle_iff split splits uses names name
  unfold cycleError at onCycle ⊢
  rw [NameSet.mem_to_list] at onCycle
  rw [NameSet.mem_to_list, NameSet.mem_filter, NameSet.mem_of_list, Bool.not_eq_true',
    decide_eq_false_iff_not, onCycle, mem_stuck_iff, and_comm]
  apply and_congr_right
  intro apart
  apply exists_congr
  intro other
  apply and_congr_left
  intro cycle
  -- On no cycle itself, a name gets to one by one step at least.
  rw [reflTransGen_iff_eq_or_transGen]
  apply or_iff_right
  intro same
  exact apart (same ▸ cycle)

end Error

theorem cycle_error_ascends (split : Graph → List (List String))
    (depends : String → List String) (stuck : List String) :
    (cycleError split depends stuck).cycle.Pairwise (· < ·) ∧
      (cycleError split depends stuck).blocked.Pairwise (· < ·) :=
  ⟨NameSet.ascending _, NameSet.ascending _⟩

/-- An error is determined by the names that it lists. -/
theorem cycle_error_eq_of_splits (first second : Graph → List (List String))
    (firstSplits : ∀ graph : Graph, graph.Splits (first graph))
    (secondSplits : ∀ graph : Graph, graph.Splits (second graph))
    (uses : String → NameSet) (names : NameSet) :
    cycleError first (dependencies uses names) (stuckNames uses names) =
      cycleError second (dependencies uses names) (stuckNames uses names) := by
  have ascends := fun split => cycle_error_ascends split (dependencies uses names)
    (stuckNames uses names)
  have cycles := NameSet.ascending_eq_of_mem_iff _ _ (ascends first).1 (ascends second).1
    fun name => by
      rw [mem_cycle_iff first firstSplits, mem_cycle_iff second secondSplits]
  have blocked := NameSet.ascending_eq_of_mem_iff _ _ (ascends first).2 (ascends second).2
    fun name => by
      rw [mem_blocked_iff first firstSplits, mem_blocked_iff second secondSplits]
  exact congrArg₂ CycleError.mk cycles blocked

end Dependency

namespace Library

/-- If a requested block depends on itself, by way of others, the blocks are not ordered. Reported
are, each ascending and without repeats, the names on a cycle and the names on no cycle from which
one can be reached. How the strongly connected components are found makes no difference. -/
theorem cyclic_names_reported (library : Library) (requested : List String)
    (cyclic : Cyclic library.symbolsOf (requested.filter library.contains)) :
    let names := requested.filter library.contains
    let Path := TransGen (Depends library.symbolsOf names)
    ∃ error, library.schedule requested = .error error ∧
      (∀ split : Graph → List (List String), (∀ graph : Graph, graph.Splits (split graph)) →
        scheduleBy split library.symbolsOf (.ofList names) = .error error) ∧
      error.cycle ≠ [] ∧
      error.cycle.Pairwise (· < ·) ∧
      error.blocked.Pairwise (· < ·) ∧
      (∀ name, name ∈ error.cycle ↔ Path name name) ∧
      (∀ name, name ∈ error.blocked ↔
        ¬ Path name name ∧ ∃ other, Path name other ∧ Path other other) := by
  intro names Path
  have members : ∀ name, name ∈ (NameSet.ofList names).toList ↔ name ∈ names :=
    NameSet.mem_of_list names
  have paths : TransGen (Depends library.symbolsOf (NameSet.ofList names).toList) = Path := by
    rw [depends_congr _ _ members]
  have onSet : Cyclic library.symbolsOf (NameSet.ofList names).toList :=
    (cyclic_congr _ _ members).2 cyclic
  have requestedSet : (NameSet.ofList requested).filter (fun name => library.contains name) =
      NameSet.ofList names := by
    apply NameSet.ext
    intro name
    rw [mem_requested_iff, NameSet.mem_of_list]
  have onCycle := mem_cycle_iff Graph.components Graph.components_split library.symbolsOf
    (.ofList names)
  have blocked := mem_blocked_iff Graph.components Graph.components_split library.symbolsOf
    (.ofList names)
  have ascends := cycle_error_ascends Graph.components
    (dependencies library.symbolsOf (.ofList names)) (stuckNames library.symbolsOf (.ofList names))
  rw [paths] at onCycle blocked
  refine ⟨_, ?_, ?_, ?_, ascends.1, ascends.2, onCycle, blocked⟩
  · rw [schedule, requestedSet]
    exact schedule_by_of_cyclic Graph.components library.symbolsOf (.ofList names) onSet
  · intro split splits
    rw [schedule_by_of_cyclic split library.symbolsOf (.ofList names) onSet,
      cycle_error_eq_of_splits split Graph.components splits Graph.components_split]
  · rcases cyclic with ⟨name, cycle⟩
    exact List.ne_nil_of_mem ((onCycle name).2 cycle)

/-- Between the cycle of "p" and "q" and that of "x" and "y" stands "m", which also mentions itself.
Behind both, "t" is blocked, while "e" is free. -/
theorem cyclic_names_reported_between_cycles :
    let library := Library.ofUses [("e", []), ("m", ["m", "p"]), ("p", ["q"]), ("q", ["e", "p"]),
      ("t", ["e", "x"]), ("x", ["m", "y"]), ("y", ["x"])]
    let requested := ["t", "y", "x", "?", "p", "q", "m", "p", "e"]
    let names := requested.filter library.contains
    let Path := TransGen (Depends library.symbolsOf names)
    Cyclic library.symbolsOf names ∧
    library.schedule requested = .error ⟨["p", "q", "x", "y"], ["m", "t"]⟩ ∧
    scheduleBy Graph.components library.symbolsOf (.ofList names) =
      .error ⟨["p", "q", "x", "y"], ["m", "t"]⟩ ∧
    (∀ name, name ∈ ["p", "q", "x", "y"] ↔ Path name name) ∧
    (∀ name, name ∈ ["m", "t"] ↔
      ¬ Path name name ∧ ∃ other, Path name other ∧ Path other other) := by
  intro library requested names Path
  have forth : Depends library.symbolsOf names "p" "q" := by
    unfold Depends
    decide +kernel
  have back : Depends library.symbolsOf names "q" "p" := by
    unfold Depends
    decide +kernel
  have cyclic : Cyclic library.symbolsOf names := ⟨"p", .tail (.single forth) back⟩
  have evaluated : (library.schedule requested).map Schedule.order =
      .error ⟨["p", "q", "x", "y"], ["m", "t"]⟩ := by
    decide +kernel
  obtain ⟨error, failed, anyway, _, _, _, onCycle, blocked⟩ :=
    cyclic_names_reported library requested cyclic
  rw [failed] at evaluated
  cases Except.error.inj evaluated
  exact ⟨cyclic, failed, anyway Graph.components Graph.components_split, onCycle, blocked⟩

end Library

end PairLoop
