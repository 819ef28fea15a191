import PairLoop.Dependency.Graph
import PairLoop.Library.Basic
import PairLoop.Listing

/-!
An order in which blocks can run, so that each stands behind all those it uses. Every name gets a
weight, which is more than the weights of its dependencies, in passes over the names that have none
yet. When a pass finds no weight and names are left, these are exactly the names from which a cycle
of dependencies can be reached.
-/

namespace PairLoop

/-- Names that cannot be ordered. -/
structure CycleError where
  /-- The names on a cycle, ascending. -/
  cycle : List String
  /-- The names on no cycle from which one can be reached, ascending. -/
  blocked : List String
deriving DecidableEq

def CycleError.message (error : CycleError) : String :=
  "Cycle detected among precomputed symbols " ++ Listing.bracketed error.cycle

/-- Names in an order by weights, where no name depends on one of its own weight or a greater. -/
structure Schedule where
  order : List String
  weights : Bindings Nat

namespace Schedule

def weight? (schedule : Schedule) (name : String) : Option Nat := schedule.weights.find? name

/-- Puts a name at the end of the level of its weight. Levels that are missing so far are added. -/
def place (levels : List (List String)) (weight : Nat) (name : String) : List (List String) :=
  (levels ++ List.replicate (weight + 1 - levels.length) []).modify weight fun level =>
    level ++ [name]

/-- The order split into names of one weight. Every name of the order has a weight. -/
def levels (schedule : Schedule) : List (List String) :=
  schedule.order.foldl
    (fun levels name => place levels ((schedule.weight? name).getD 0) name) []

end Schedule

namespace Dependency

/-- The names of a set that a name uses, itself excepted. -/
def dependencies (uses : String → NameSet) (names : NameSet) (name : String) : List String :=
  ((uses name).filter fun used => used != name && decide (used ∈ names)).toList

/-- The least weight from `level` on that is more than the weights of all dependencies. There is
none while a dependency has no weight. -/
def level? (weights : Bindings Nat) (level : Nat) : List String → Option Nat
  | [] => some level
  | used :: rest =>
    match weights.find? used with
    | some weight => level? weights (max level (weight + 1)) rest
    | none => none

/-- Gives weights to those of the pending names whose dependencies have one, and keeps the others.
A weight counts for the names behind it already. -/
def pass (depends : String → List String) (weights : Bindings Nat) :
    List String → Bindings Nat × List String
  | [] => (weights, [])
  | name :: rest =>
    match level? weights 0 (depends name) with
    | some level => pass depends (weights.insert name level) rest
    | none =>
      let (final, left) := pass depends weights rest
      (final, name :: left)

/-- Passes over the pending names until one finds no weight, at most `rounds` of them. The second
component holds the names that are left without a weight. -/
def settle (depends : String → List String) : Nat → Bindings Nat → List String →
    Bindings Nat × List String
  | 0, weights, pending => (weights, pending)
  | rounds + 1, weights, pending =>
    let (next, left) := pass depends weights pending
    if left.length = pending.length then (weights, pending) else settle depends rounds next left

/-- The names of a weight, ascending. -/
def namesOf (weights : Bindings Nat) (weight : Nat) : List String :=
  (NameSet.ofList ((weights.pairs.filter fun pair => pair.2 == weight).map Prod.fst)).toList

/-- One more than the greatest weight. -/
def height (weights : Bindings Nat) : Nat :=
  weights.values.foldr (fun weight height => max (weight + 1) height) 0

/-- The names that have a weight, by weight and then by name. -/
def orderOf (weights : Bindings Nat) : List String :=
  (List.range (height weights)).flatMap (namesOf weights)

/-- The graph of the names that are left without a weight, with an edge to each from every name
that it waits for. -/
def waitingGraph (depends : String → List String) (stuck : List String) : Graph where
  nodes := .ofList stuck
  edges := stuck.flatMap fun name =>
    ((depends name).filter stuck.contains).map fun used => (used, name)
  inside := by
    intro edge listed
    obtain ⟨name, left, drawn⟩ := List.mem_flatMap.1 listed
    obtain ⟨used, waited, rfl⟩ := List.mem_map.1 drawn
    have usedLeft := List.contains_iff_mem.1 (List.mem_filter.1 waited).2
    exact ⟨(NameSet.mem_of_list ..).2 usedLeft, (NameSet.mem_of_list ..).2 left⟩

/-- Tells the names on a cycle from those that wait for one, by the strongly connected components
of their graph. The function that finds the components is given. -/
def cycleError (split : Graph → List (List String)) (depends : String → List String)
    (stuck : List String) : CycleError :=
  let graph := waitingGraph depends stuck
  let onCycle := NameSet.ofList ((split graph).filter graph.isCyclic).flatten
  let blocked := (NameSet.ofList stuck).filter fun name => !decide (name ∈ onCycle)
  ⟨onCycle.toList, blocked.toList⟩

/-- Orders a set of names. The function that splits a graph into its strongly connected components
is given; it decides nothing but what is told of names that cannot be ordered. -/
def scheduleBy (split : Graph → List (List String)) (uses : String → NameSet) (names : NameSet) :
    Except CycleError Schedule :=
  match settle (dependencies uses names) names.size ∅ names.toList with
  | (weights, []) => .ok ⟨orderOf weights, weights⟩
  | (_, stuck) => .error (cycleError split (dependencies uses names) stuck)

def scheduleOf (uses : String → NameSet) (names : NameSet) : Except CycleError Schedule :=
  scheduleBy Graph.components uses names

end Dependency

/-- Orders those of the given names that have a block. Dependencies on other names do not count. -/
def Library.schedule (library : Library) (names : List String) : Except CycleError Schedule :=
  Dependency.scheduleOf library.symbolsOf
    ((NameSet.ofList names).filter fun name => library.contains name)

end PairLoop
