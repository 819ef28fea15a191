import PairLoop.Library.SelfTest
import PairLoop.Proofs.Dependency.Levels
import PairLoop.Proofs.Dependency.Reach

/-!
Levels as stages of an evaluation. The level of a number holds the names of this weight, ascending.
Dependencies lead to lower levels only, and from each level to the one right below it. So when the
levels are worked off one after another, each in any order, every name comes behind all that it
depends on, and no value that it reads is produced later.
-/

namespace PairLoop

open Dependency

namespace Schedule

/-- The level of a number. Behind the last level there are no names. -/
def level (schedule : Schedule) (index : Nat) : List String := schedule.levels.getD index []

/-- A run through the levels one after another, with the names of each level in any order. -/
def RunsByLevel (schedule : Schedule) (run : List String) : Prop :=
  ∃ parts, List.Forall₂ List.Perm parts schedule.levels ∧ run = parts.flatten

end Schedule

namespace Dependency

variable {uses : String → NameSet} {names : NameSet} {schedule : Schedule}

theorem level_eq (scheduled : scheduleOf uses names = .ok schedule) (index : Nat) :
    schedule.level index = namesOf schedule.weights index := by
  rw [Schedule.level, levels_eq scheduled, List.getD_eq_getElem?_getD, List.getElem?_map]
  by_cases below : index < height schedule.weights
  · rw [List.getElem?_range below, Option.map_some, Option.getD_some]
  · have behind : (List.range (height schedule.weights))[index]? = none := by
      rw [List.getElem?_eq_none_iff, List.length_range]
      omega
    have nothing : namesOf schedule.weights index = [] := by
      apply List.eq_nil_iff_forall_not_mem.2
      intro name member
      exact below (lt_height _ name index ((mem_names_of_iff ..).1 member))
    rw [behind, nothing]
    rfl

theorem mem_level_iff (scheduled : scheduleOf uses names = .ok schedule) (index : Nat)
    (name : String) : name ∈ schedule.level index ↔ schedule.weight? name = some index := by
  rw [level_eq scheduled]
  exact mem_names_of_iff schedule.weights index name

theorem level_ascends (scheduled : scheduleOf uses names = .ok schedule) (index : Nat) :
    (schedule.level index).Pairwise (· < ·) := by
  rw [level_eq scheduled]
  exact NameSet.ascending _

theorem levels_ne_nil (scheduled : scheduleOf uses names = .ok schedule) (level : List String)
    (member : level ∈ schedule.levels) : level ≠ [] := by
  rw [levels_eq scheduled] at member
  obtain ⟨weight, below, rfl⟩ := List.mem_map.1 member
  exact names_of_ne_nil scheduled weight (List.mem_range.1 below)

theorem depends_order_iff (scheduled : scheduleOf uses names = .ok schedule) (name used : String) :
    Depends uses schedule.order name used ↔ Depends uses names.toList name used := by
  rw [depends_congr schedule.order names.toList (mem_order_iff scheduled)]

/-- Dependencies lead to lower levels only. -/
theorem lower_of_depends (scheduled : scheduleOf uses names = .ok schedule) (name used : String)
    (index later : Nat) (member : name ∈ schedule.level index)
    (usedMember : used ∈ schedule.level later)
    (depends : Depends uses schedule.order name used) : later < index := by
  rw [mem_level_iff scheduled] at member usedMember
  rw [depends_order_iff scheduled] at depends
  obtain ⟨weight, weighed, lighter⟩ :=
    exists_lighter_of_depends scheduled name used index member depends
  rw [usedMember, Option.some.injEq] at weighed
  omega

/-- A longest chain goes on on the level right below. -/
theorem exists_depends_below (scheduled : scheduleOf uses names = .ok schedule) (name : String)
    (index : Nat) (member : name ∈ schedule.level (index + 1)) :
    ∃ used ∈ schedule.level index, Depends uses schedule.order name used := by
  have longest := (weight_eq_some_iff scheduled name (index + 1)).1
    ((mem_level_iff scheduled (index + 1) name).1 member)
  obtain ⟨used, depends, rest⟩ := exists_longest_below _ name index longest
  refine ⟨used, ?_, (depends_order_iff scheduled name used).2 depends⟩
  rw [mem_level_iff scheduled, weight_eq_some_iff scheduled]
  exact rest

/-- A part of a run holds the names of its level. -/
theorem weight_of_mem_part (scheduled : scheduleOf uses names = .ok schedule)
    (parts : List (List String)) (rearranged : List.Forall₂ List.Perm parts schedule.levels)
    (index : Nat) (inside : index < parts.length) (name : String) (member : name ∈ parts[index]) :
    schedule.weight? name = some index := by
  obtain ⟨sameLength, reordered⟩ := List.forall₂_iff_get.1 rearranged
  have below : index < schedule.levels.length := sameLength ▸ inside
  have alike : parts[index].Perm schedule.levels[index] := reordered index inside below
  rw [← mem_level_iff scheduled, Schedule.level, List.getD_eq_getElem?_getD,
    List.getElem?_eq_getElem below]
  exact alike.mem_iff.1 member

/-- A run through the levels never goes back to a smaller weight. -/
theorem run_rises (scheduled : scheduleOf uses names = .ok schedule) (run : List String)
    (byLevel : schedule.RunsByLevel run) :
    run.Pairwise fun first second => ∀ weight later, schedule.weight? first = some weight →
      schedule.weight? second = some later → weight ≤ later := by
  obtain ⟨parts, rearranged, rfl⟩ := byLevel
  have weighed := weight_of_mem_part scheduled parts rearranged
  apply List.pairwise_flatten.2
  constructor
  · intro part listed
    obtain ⟨index, inside, rfl⟩ := List.getElem_of_mem listed
    apply List.pairwise_of_forall_mem_list
    intro first member second secondMember weight later firstWeighed secondWeighed
    rw [weighed index inside first member, Option.some.injEq] at firstWeighed
    rw [weighed index inside second secondMember, Option.some.injEq] at secondWeighed
    omega
  · apply List.pairwise_iff_getElem.2
    intro index further inside furtherInside before first member second secondMember weight later
      firstWeighed secondWeighed
    rw [weighed index inside first member, Option.some.injEq] at firstWeighed
    rw [weighed further furtherInside second secondMember, Option.some.injEq] at secondWeighed
    omega

theorem run_perm (scheduled : scheduleOf uses names = .ok schedule) (run : List String)
    (byLevel : schedule.RunsByLevel run) : run.Perm schedule.order := by
  obtain ⟨parts, rearranged, rfl⟩ := byLevel
  rw [← flatten_levels scheduled]
  exact List.Perm.flatten_congr rearranged

/-- In a run through the levels, what a name depends on comes before it. -/
theorem mem_before_of_run (scheduled : scheduleOf uses names = .ok schedule) (run : List String)
    (byLevel : schedule.RunsByLevel run) (before after : List String) (name used : String)
    (split : run = before ++ name :: after) (depends : Depends uses schedule.order name used) :
    used ∈ before := by
  have listed := (run_perm scheduled run byLevel).mem_iff.2 depends.2.1
  rw [split, List.mem_append, List.mem_cons] at listed
  rcases listed with early | same | late
  · exact early
  · exact absurd same depends.2.2.2
  · -- A name behind this one weighs no less, but what it depends on weighs less.
    have inside := (depends_order_iff scheduled name used).1 depends
    obtain ⟨weight, weighed⟩ := (exists_weight_iff scheduled name).2 inside.1
    obtain ⟨usedWeight, usedWeighed, lighter⟩ :=
      exists_lighter_of_depends scheduled name used weight weighed inside
    have rises := run_rises scheduled run byLevel
    rw [split, List.pairwise_append, List.pairwise_cons] at rises
    have heavier := rises.2.1.1 used late weight usedWeight weighed usedWeighed
    omega

end Dependency

namespace Library

/-- Evaluates the blocks of names one after another. -/
def testEach (library : Library) (given : Context) (trial : Trial) (run : List String) : Trial :=
  run.foldl (fun trial name => library.testLevel given trial [name]) trial

variable {library : Library} {given : Context}

/-- The evaluation of a block produces no value but its own. -/
theorem produced_of_test_one (trial : Trial) (name other : String) (different : other ≠ name) :
    (library.testLevel given trial [name]).produced.find? other = trial.produced.find? other := by
  have tested : library.testLevel given trial [name] =
      match library.attempt? given trial.produced name with
      | some answer => trial.record answer
      | none => trial := by
    unfold testLevel
    cases attempted : library.attempt? given trial.produced name with
    | none => rw [List.filterMap_cons_none attempted, List.filterMap_nil, List.foldl_nil]
    | some answer =>
      rw [List.filterMap_cons_some attempted, List.filterMap_nil, List.foldl_cons, List.foldl_nil]
  rw [tested]
  cases attempted : library.attempt? given trial.produced name with
  | none => rfl
  | some answer =>
    have own : answer.1 = name := by
      unfold attempt? at attempted
      split at attempted
      · split at attempted
        · rw [← Option.some.inj attempted]
        · cases attempted
      · cases attempted
    dsimp only
    unfold Trial.record
    cases Trial.valueOf? answer.1 answer.2 with
    | none => rfl
    | some value => rw [Bindings.insert_find, own, if_neg different]

theorem produced_of_test_each (trial : Trial) (run : List String) (other : String)
    (absent : other ∉ run) :
    (library.testEach given trial run).produced.find? other = trial.produced.find? other := by
  induction run generalizing trial with
  | nil => rfl
  | cons name rest induction =>
    rw [List.mem_cons, not_or] at absent
    exact (induction _ absent.2).trans (produced_of_test_one trial name other absent.1)

theorem test_each_append (trial : Trial) (first second : List String) :
    library.testEach given trial (first ++ second) =
      library.testEach given (library.testEach given trial first) second :=
  List.foldl_append

/-- The levels of a schedule are not empty, and one behind the other they are its order. The level
of a number holds the names of this weight, ascending. No name depends on one of its own level or a
later one, and each name that is not on the first level depends on one of the level right before.
In every run through the levels, whatever the order inside them, a name comes behind all that it
depends on, and when it is evaluated, each other name that its block uses has the value, if any,
that it has at the end of the run. -/
theorem levels_in_dependency_order (library : Library) (requested : List String)
    (schedule : Schedule) (scheduled : library.schedule requested = .ok schedule) :
    (∀ level ∈ schedule.levels, level ≠ []) ∧
    schedule.levels.flatten = schedule.order ∧
    (∀ index, (schedule.level index).Pairwise (· < ·) ∧
      ∀ name, name ∈ schedule.level index ↔ schedule.weight? name = some index) ∧
    (∀ index later, index ≤ later → ∀ name ∈ schedule.level index,
      ∀ used ∈ schedule.level later, used ∈ library.symbolsOf name → used = name) ∧
    (∀ index, ∀ name ∈ schedule.level (index + 1), ∃ used ∈ schedule.level index,
      used ∈ library.symbolsOf name ∧ used ≠ name) ∧
    ∀ run, schedule.RunsByLevel run → ∀ before name after, run = before ++ name :: after →
      ∀ used ∈ library.symbolsOf name, used ≠ name →
        (used ∈ schedule.order → used ∈ before) ∧
        ∀ given, (library.testEach given .initial before).produced.find? used =
          (library.testEach given .initial run).produced.find? used := by
  have mem_order_of_mem_level : ∀ index name, name ∈ schedule.level index →
      name ∈ schedule.order := by
    intro index name member
    rw [mem_order_iff scheduled, ← exists_weight_iff scheduled]
    exact ⟨index, (mem_level_iff scheduled index name).1 member⟩
  refine ⟨levels_ne_nil scheduled, flatten_levels scheduled, ?_, ?_, ?_, ?_⟩
  · intro index
    exact ⟨level_ascends scheduled index, mem_level_iff scheduled index⟩
  · intro index later notBefore name member used usedMember uses
    by_contra different
    have lower := lower_of_depends scheduled name used index later member usedMember
      ⟨mem_order_of_mem_level index name member, mem_order_of_mem_level later used usedMember,
        uses, different⟩
    omega
  · intro index name member
    obtain ⟨used, below, depends⟩ := exists_depends_below scheduled name index member
    exact ⟨used, below, depends.2.2⟩
  · intro run byLevel before name after split used uses different
    have reordered := run_perm scheduled run byLevel
    have distinct := reordered.nodup_iff.2 (order_nodup scheduled)
    have early : used ∈ schedule.order → used ∈ before := by
      intro listed
      have member : name ∈ run := split ▸ List.mem_append_right before List.mem_cons_self
      exact mem_before_of_run scheduled run byLevel before after name used split
        ⟨reordered.mem_iff.1 member, listed, uses, different⟩
    refine ⟨early, ?_⟩
    intro given
    -- No name comes twice, so what is used is not evaluated again from here on.
    have absent : used ∉ name :: after := by
      intro late
      have listed := reordered.mem_iff.1 (split ▸ List.mem_append_right before late)
      rw [split, List.nodup_append] at distinct
      exact distinct.2.2 used (early listed) used late rfl
    rw [split, test_each_append, produced_of_test_each _ _ used absent]

/-- The names "b" and "c" share a level, so they may change places. The name "f", which "e" uses, is
not requested, so "e" stands on the first level. -/
theorem levels_in_dependency_order_of_diamond :
    let library := Library.ofUses [("a", ["a", "b", "c", "z"]), ("b", ["d"]), ("c", ["d"]),
      ("d", []), ("e", ["f"]), ("f", [])]
    ∃ schedule, library.schedule ["e", "d", "c", "b", "a", "b", "?"] = .ok schedule ∧
      schedule.levels = [["d", "e"], ["b", "c"], ["a"]] ∧
      schedule.order = ["d", "e", "b", "c", "a"] ∧
      schedule.RunsByLevel ["e", "d", "c", "b", "a"] ∧
      ∀ given, (library.testEach given .initial ["e", "d", "c"]).produced.find? "d" =
        (library.testEach given .initial ["e", "d", "c", "b", "a"]).produced.find? "d" := by
  intro library
  have evaluated : (library.schedule ["e", "d", "c", "b", "a", "b", "?"]).map Schedule.levels =
      .ok [["d", "e"], ["b", "c"], ["a"]] := by
    decide +kernel
  cases scheduled : library.schedule ["e", "d", "c", "b", "a", "b", "?"] with
  | error error =>
    rw [scheduled] at evaluated
    cases evaluated
  | ok schedule =>
    rw [scheduled] at evaluated
    have levels : schedule.levels = [["d", "e"], ["b", "c"], ["a"]] := Except.ok.inj evaluated
    obtain ⟨_, order, _, _, _, reads⟩ := levels_in_dependency_order library _ schedule scheduled
    rw [levels] at order
    have byLevel : schedule.RunsByLevel ["e", "d", "c", "b", "a"] := by
      refine ⟨[["e", "d"], ["c", "b"], ["a"]], ?_, rfl⟩
      rw [levels]
      exact .cons (.swap "d" "e" []) (.cons (.swap "b" "c" []) (.cons (.refl ["a"]) .nil))
    have read := reads _ byLevel ["e", "d", "c"] "b" ["a"] rfl "d" (by decide +kernel) (by decide)
    exact ⟨schedule, rfl, levels, order.symm, byLevel, read.2⟩

end Library

end PairLoop
