import PairLoop.Proofs.Dependency.Weight

/-!
The levels of a schedule. A longest chain passes through every smaller weight, so no level up to the
greatest weight is empty, and the names of the order fill the levels one after another. What a name
depends on stands on levels before its own.
-/

namespace PairLoop

open Dependency

namespace Schedule

theorem modify_behind (levels : List (List String)) (level : List String)
    (change : List String → List String) :
    (levels ++ [level]).modify levels.length change = levels ++ [change level] := by
  induction levels with
  | nil => rfl
  | cons head rest induction =>
    rw [List.cons_append, List.length_cons, List.modify_succ_cons, induction, List.cons_append]

/-- A name of the next weight begins a level. -/
theorem place_first (levels : List (List String)) (name : String) :
    place levels levels.length name = levels ++ [[name]] := by
  have missing : levels.length + 1 - levels.length = 1 := by omega
  rw [place, missing, List.replicate_one, modify_behind, List.nil_append]

theorem place_last (levels : List (List String)) (level : List String) (name : String) :
    place (levels ++ [level]) levels.length name = levels ++ [level ++ [name]] := by
  have complete : levels.length + 1 - (levels ++ [level]).length = 0 := by simp
  rw [place, complete, List.replicate_zero, List.append_nil, modify_behind]

variable (schedule : Schedule)

/-- Puts a name of the order on the level of its weight. -/
def addTo (levels : List (List String)) (name : String) : List (List String) :=
  place levels ((schedule.weight? name).getD 0) name

theorem add_rest (levels : List (List String)) (level names : List String)
    (weighed : ∀ name ∈ names, schedule.weight? name = some levels.length) :
    names.foldl schedule.addTo (levels ++ [level]) = levels ++ [level ++ names] := by
  induction names generalizing level with
  | nil => rw [List.append_nil, List.foldl_nil]
  | cons name rest induction =>
    rw [List.foldl_cons, addTo, weighed name List.mem_cons_self, Option.getD_some, place_last,
      induction _ fun other member => weighed other (List.mem_cons_of_mem name member),
      List.append_assoc, List.singleton_append]

theorem add_level (levels : List (List String)) (names : List String) (present : names ≠ [])
    (weighed : ∀ name ∈ names, schedule.weight? name = some levels.length) :
    names.foldl schedule.addTo levels = levels ++ [names] := by
  cases names with
  | nil => exact absurd rfl present
  | cons name rest =>
    rw [List.foldl_cons, addTo, weighed name List.mem_cons_self, Option.getD_some, place_first,
      schedule.add_rest levels [name] rest
        fun other member => weighed other (List.mem_cons_of_mem name member),
      List.singleton_append]

end Schedule

namespace Dependency

variable {uses : String → NameSet} {names : NameSet} {schedule : Schedule}

/-- A longest chain goes on with a longest chain. -/
theorem exists_longest_below (members : List String) (name : String) (length : Nat)
    (longest : IsLongest uses members name (length + 1)) :
    ∃ used, Depends uses members name used ∧ IsLongest uses members used length := by
  obtain ⟨used, depends, rest⟩ := (chain_succ_iff name length).1 longest.1
  refine ⟨used, depends, rest, ?_⟩
  intro other chain
  have bounded := longest.2 (other + 1) (.step depends chain)
  omega

theorem exists_longest_of_le (members : List String) (name : String) (length shorter : Nat)
    (longest : IsLongest uses members name length) (below : shorter ≤ length) :
    ∃ other, IsLongest uses members other shorter := by
  induction length generalizing name with
  | zero =>
    have same : shorter = 0 := by omega
    exact ⟨name, same ▸ longest⟩
  | succ length induction =>
    by_cases same : shorter = length + 1
    · exact ⟨name, same ▸ longest⟩
    · obtain ⟨used, _, rest⟩ := exists_longest_below members name length longest
      exact induction used rest (by omega)

theorem exists_height (weights : Bindings Nat) (positive : 0 < height weights) :
    ∃ name weight, weights.find? name = some weight ∧ height weights = weight + 1 := by
  have reached : ∃ weight ∈ weights.values, height weights = weight + 1 := by
    unfold height at positive ⊢
    generalize weights.values = values at positive ⊢
    induction values with
    | nil => exact absurd positive (Nat.lt_irrefl 0)
    | cons head rest induction =>
      rw [List.foldr_cons] at positive ⊢
      by_cases heavier : head + 1 < rest.foldr (fun weight height => max (weight + 1) height) 0
      · obtain ⟨weight, member, highest⟩ := induction (by omega)
        exact ⟨weight, List.mem_cons_of_mem head member, by omega⟩
      · exact ⟨head, List.mem_cons_self, by omega⟩
  obtain ⟨weight, member, highest⟩ := reached
  obtain ⟨pair, bound, rfl⟩ := List.mem_map.1 member
  exact ⟨pair.1, pair.2, (Bindings.find_eq_some_iff ..).2 bound, highest⟩

/-- No level is empty. -/
theorem names_of_ne_nil (scheduled : scheduleOf uses names = .ok schedule) (weight : Nat)
    (below : weight < height schedule.weights) : namesOf schedule.weights weight ≠ [] := by
  obtain ⟨name, top, weighed, highest⟩ := exists_height schedule.weights (by omega)
  have longest := (weight_eq_some_iff scheduled name top).1 weighed
  obtain ⟨other, otherLongest⟩ := exists_longest_of_le _ name top weight longest (by omega)
  have otherWeighed := (weight_eq_some_iff scheduled other weight).2 otherLongest
  exact List.ne_nil_of_mem ((mem_names_of_iff schedule.weights weight other).2 otherWeighed)

theorem levels_below (scheduled : scheduleOf uses names = .ok schedule) (count : Nat)
    (bounded : count ≤ height schedule.weights) :
    ((List.range count).flatMap (namesOf schedule.weights)).foldl schedule.addTo [] =
      (List.range count).map (namesOf schedule.weights) := by
  induction count with
  | zero => rfl
  | succ count induction =>
    rw [List.range_succ, List.flatMap_append, List.flatMap_singleton, List.foldl_append,
      induction (by omega), List.map_append, List.map_singleton]
    apply schedule.add_level _ _ (names_of_ne_nil scheduled count bounded)
    intro name member
    rw [List.length_map, List.length_range]
    exact (mem_names_of_iff schedule.weights count name).1 member

/-- Each level holds the names of one weight, ascending. -/
theorem levels_eq (scheduled : scheduleOf uses names = .ok schedule) :
    schedule.levels =
      (List.range (height schedule.weights)).map (namesOf schedule.weights) := by
  have order := ((schedule_of_eq_ok_iff ..).1 scheduled).2
  have whole := levels_below scheduled (height schedule.weights) (Nat.le_refl _)
  rw [Schedule.levels, order]
  exact whole

theorem flatten_levels (scheduled : scheduleOf uses names = .ok schedule) :
    schedule.levels.flatten = schedule.order := by
  rw [levels_eq scheduled, ((schedule_of_eq_ok_iff ..).1 scheduled).2]
  rfl

/-- What the names of a level depend on stands on the levels before it. -/
theorem mem_levels_before (scheduled : scheduleOf uses names = .ok schedule)
    (before after : List (List String)) (level : List String)
    (split : schedule.levels = before ++ level :: after) (name used : String)
    (member : name ∈ level) (depends : Depends uses names.toList name used) :
    used ∈ before.flatten := by
  rw [levels_eq scheduled] at split
  obtain ⟨lower, upper, weights, rfl, rest⟩ := List.map_eq_append_iff.1 split
  obtain ⟨weight, higher, rfl, rfl, rfl⟩ := List.map_eq_cons_iff.1 rest
  have weighed := (mem_names_of_iff schedule.weights weight name).1 member
  obtain ⟨usedWeight, usedWeighed, lighter⟩ :=
    exists_lighter_of_depends scheduled name used weight weighed depends
  -- The weights ascend, so the one of the name below stands before that of the level.
  have listed := List.mem_range.2 (lt_height schedule.weights used usedWeight usedWeighed)
  have ascending : (List.range (height schedule.weights)).Pairwise (· < ·) := List.pairwise_lt_range
  rw [weights] at listed ascending
  have above := (List.pairwise_cons.1 (List.pairwise_append.1 ascending).2.1).1
  have before : usedWeight ∈ lower := by
    rcases List.mem_append.1 listed with early | late
    · exact early
    · rcases List.mem_cons.1 late with same | later
      · omega
      · have greater := above usedWeight later
        omega
  exact List.mem_flatten.2 ⟨_, List.mem_map_of_mem before,
    (mem_names_of_iff schedule.weights usedWeight used).2 usedWeighed⟩

end Dependency

end PairLoop
