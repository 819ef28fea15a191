import PairLoop.Proofs.Dependency.Pass

/-!
What a schedule says about the names it orders. Its weights are the lengths of longest chains, its
order ascends by weight and then by name, and there is a schedule exactly if no name depends on
itself. These facts determine the schedule, so it hangs on the set of the names alone.
-/

namespace PairLoop

open Relation Dependency

/-- One name has a smaller weight than another, or the same weight and is smaller itself. -/
def Schedule.Precedes (schedule : Schedule) (first second : String) : Prop :=
  ∃ weight later, schedule.weight? first = some weight ∧ schedule.weight? second = some later ∧
    (weight < later ∨ weight = later ∧ first < second)

namespace Dependency

theorem mem_names_of_iff (weights : Bindings Nat) (weight : Nat) (name : String) :
    name ∈ namesOf weights weight ↔ weights.find? name = some weight := by
  unfold namesOf
  rw [NameSet.mem_to_list, NameSet.mem_of_list, Bindings.find_eq_some_iff]
  simp

theorem lt_height (weights : Bindings Nat) (name : String) (weight : Nat)
    (weighed : weights.find? name = some weight) : weight < height weights := by
  have bound := (Bindings.find_eq_some_iff weights name weight).1 weighed
  have member : weight ∈ weights.values := List.mem_map.2 ⟨(name, weight), bound, rfl⟩
  unfold height
  generalize weights.values = values at member
  induction values with
  | nil => exact absurd member List.not_mem_nil
  | cons head rest induction =>
    rw [List.foldr_cons]
    rcases List.mem_cons.1 member with same | later
    · omega
    · have below := induction later
      omega

theorem mem_order_of_iff (weights : Bindings Nat) (name : String) :
    name ∈ orderOf weights ↔ ∃ weight, weights.find? name = some weight := by
  unfold orderOf
  rw [List.mem_flatMap]
  constructor
  · intro listed
    rcases listed with ⟨weight, _, member⟩
    exact ⟨weight, (mem_names_of_iff weights weight name).1 member⟩
  · intro weighed
    rcases weighed with ⟨weight, weighed⟩
    exact ⟨weight, List.mem_range.2 (lt_height weights name weight weighed),
      (mem_names_of_iff weights weight name).2 weighed⟩

theorem order_of_ascends (weights : Bindings Nat) :
    (orderOf weights).Pairwise (Schedule.Precedes ⟨orderOf weights, weights⟩) := by
  apply List.pairwise_flatMap.2
  constructor
  · intro weight _
    have ascending : (namesOf weights weight).Pairwise (· < ·) := NameSet.ascending _
    apply ascending.imp_of_mem
    intro first second firstMember secondMember smaller
    exact ⟨weight, weight, (mem_names_of_iff weights weight first).1 firstMember,
      (mem_names_of_iff weights weight second).1 secondMember, .inr ⟨rfl, smaller⟩⟩
  · apply List.pairwise_lt_range.imp
    intro weight later lighter first firstMember second secondMember
    exact ⟨weight, later, (mem_names_of_iff weights weight first).1 firstMember,
      (mem_names_of_iff weights later second).1 secondMember, .inl lighter⟩

theorem schedule_of_eq_ok_iff (uses : String → NameSet) (names : NameSet) (schedule : Schedule) :
    scheduleOf uses names = .ok schedule ↔
      settle (dependencies uses names) names.size ∅ names.toList = (schedule.weights, []) ∧
        schedule.order = orderOf schedule.weights := by
  rcases schedule with ⟨order, weights⟩
  unfold scheduleOf scheduleBy
  cases settled : settle (dependencies uses names) names.size ∅ names.toList with
  | mk found stuck =>
    cases stuck with
    | nil =>
      simp only [Except.ok.injEq, Schedule.mk.injEq, Prod.mk.injEq, and_true]
      constructor
      · intro same
        exact ⟨same.2, same.2 ▸ same.1.symm⟩
      · intro same
        exact ⟨same.1 ▸ same.2.symm, same.1⟩
    | cons name others => simp

variable {uses : String → NameSet} {names : NameSet} {schedule : Schedule}

theorem underway_of_scheduled (scheduled : scheduleOf uses names = .ok schedule) :
    Underway uses names schedule.weights [] := by
  have settled := ((schedule_of_eq_ok_iff ..).1 scheduled).1
  have underway := (settle_spec names.size ∅ names.toList (underway_initially uses names)
    (Nat.le_refl _)).1
  rw [settled] at underway
  exact underway

theorem exists_weight_iff (scheduled : scheduleOf uses names = .ok schedule) (name : String) :
    (∃ weight, schedule.weight? name = some weight) ↔ name ∈ names := by
  have complete := (underway_of_scheduled scheduled).complete name
  rw [or_iff_left List.not_mem_nil, ← Bindings.find_is_some, Option.isSome_iff_exists] at complete
  exact complete

/-- A name's weight is the length of the longest chain that begins at it. -/
theorem weight_eq_some_iff (scheduled : scheduleOf uses names = .ok schedule) (name : String)
    (weight : Nat) :
    schedule.weight? name = some weight ↔ IsLongest uses names.toList name weight := by
  have sound := (underway_of_scheduled scheduled).sound
  constructor
  · exact sound name weight
  · intro longest
    have member : name ∈ names := by
      have start := chain_of_le name 0 weight longest.1 (by omega)
      exact (chain_zero_iff name).1 start
    obtain ⟨found, weighed⟩ := (exists_weight_iff scheduled name).2 member
    have same := is_longest_unique name found weight (sound name found weighed) longest
    rw [← same]
    exact weighed

theorem weight_eq_none_of_not_mem (scheduled : scheduleOf uses names = .ok schedule)
    (name : String) (absent : name ∉ names) : schedule.weight? name = none := by
  cases weighed : schedule.weight? name with
  | none => rfl
  | some weight => exact absurd ((exists_weight_iff scheduled name).1 ⟨weight, weighed⟩) absent

theorem mem_order_iff (scheduled : scheduleOf uses names = .ok schedule) (name : String) :
    name ∈ schedule.order ↔ name ∈ names := by
  rw [((schedule_of_eq_ok_iff ..).1 scheduled).2, mem_order_of_iff]
  exact exists_weight_iff scheduled name

theorem order_ascends (scheduled : scheduleOf uses names = .ok schedule) :
    schedule.order.Pairwise schedule.Precedes := by
  have order := ((schedule_of_eq_ok_iff ..).1 scheduled).2
  have ascends := order_of_ascends schedule.weights
  rw [← order] at ascends
  exact ascends

theorem precedes_asymm (first second : String) (forward : schedule.Precedes first second) :
    ¬ schedule.Precedes second first := by
  intro backward
  rcases forward with ⟨weight, later, firstWeight, secondWeight, forward⟩
  rcases backward with ⟨weightAgain, laterAgain, secondAgain, firstAgain, backward⟩
  rw [secondWeight, Option.some.injEq] at secondAgain
  rw [firstWeight, Option.some.injEq] at firstAgain
  rcases forward with less | ⟨same, smaller⟩ <;> rcases backward with more | ⟨again, greater⟩
  · omega
  · omega
  · omega
  · exact String.lt_irrefl first (String.lt_trans smaller greater)

theorem order_nodup (scheduled : scheduleOf uses names = .ok schedule) :
    schedule.order.Nodup := by
  apply (order_ascends scheduled).imp
  intro first second precedes same
  subst same
  exact precedes_asymm first first precedes precedes

/-- What a name depends on has a smaller weight. -/
theorem exists_lighter_of_depends (scheduled : scheduleOf uses names = .ok schedule)
    (name used : String) (weight : Nat) (weighed : schedule.weight? name = some weight)
    (depends : Depends uses names.toList name used) :
    ∃ usedWeight, schedule.weight? used = some usedWeight ∧ usedWeight < weight := by
  obtain ⟨usedWeight, usedWeighed⟩ := (exists_weight_iff scheduled used).2 depends.2.1
  refine ⟨usedWeight, usedWeighed, ?_⟩
  apply longest_lt_of_depends name used weight usedWeight _ _ depends
  · exact (weight_eq_some_iff scheduled name weight).1 weighed
  · exact (weight_eq_some_iff scheduled used usedWeight).1 usedWeighed

/-- What a name depends on stands before it. -/
theorem mem_before_of_depends (scheduled : scheduleOf uses names = .ok schedule)
    (before after : List String) (name used : String)
    (split : schedule.order = before ++ name :: after)
    (depends : Depends uses names.toList name used) : used ∈ before := by
  obtain ⟨weight, weighed⟩ := (exists_weight_iff scheduled name).2 depends.1
  obtain ⟨usedWeight, usedWeighed, lighter⟩ :=
    exists_lighter_of_depends scheduled name used weight weighed depends
  have listed := (mem_order_iff scheduled used).2 depends.2.1
  rw [split, List.mem_append, List.mem_cons] at listed
  rcases listed with early | same | late
  · exact early
  · exact absurd same depends.2.2.2
  · have ascends := order_ascends scheduled
    rw [split, List.pairwise_append, List.pairwise_cons] at ascends
    have forward := ascends.2.1.1 used late
    have backward : schedule.Precedes used name :=
      ⟨usedWeight, weight, usedWeighed, weighed, .inl lighter⟩
    exact absurd backward (precedes_asymm name used forward)

/-- Names can be ordered exactly if none of them depends on itself. -/
theorem schedulable_iff (uses : String → NameSet) (names : NameSet) :
    (∃ schedule, scheduleOf uses names = .ok schedule) ↔ ¬ Cyclic uses names.toList := by
  constructor
  · intro schedulable cyclic
    rcases schedulable with ⟨schedule, scheduled⟩
    rcases cyclic with ⟨name, cycle⟩
    have member := (chain_zero_iff name).1 (chain_of_cycle name cycle 0)
    obtain ⟨weight, weighed⟩ := (exists_weight_iff scheduled name).2 member
    have longest := (weight_eq_some_iff scheduled name weight).1 weighed
    have impossible := longest.2 (weight + 1) (chain_of_cycle name cycle (weight + 1))
    omega
  · intro acyclic
    cases settled : settle (dependencies uses names) names.size ∅ names.toList with
    | mk weights stuck =>
      cases stuck with
      | nil => exact ⟨⟨orderOf weights, weights⟩, (schedule_of_eq_ok_iff ..).2 ⟨settled, rfl⟩⟩
      | cons name others =>
        have continued := stuck_continued uses names
        have inside := settle_sublist (dependencies uses names) names.size ∅ names.toList
        rw [settled] at continued inside
        obtain ⟨other, _, cycle⟩ := leads_to_cycle continued name List.mem_cons_self
        have wider := depends_of_subset uses _ _ inside.subset
        exact absurd ⟨other, TransGen.mono wider _ _ cycle⟩ acyclic

/-- Where no name depends on itself, dependencies come to an end. -/
theorem well_founded_of_acyclic (acyclic : ¬ Cyclic uses names.toList) :
    WellFounded fun used name => Depends uses names.toList name used := by
  obtain ⟨schedule, scheduled⟩ := (schedulable_iff uses names).2 acyclic
  apply Subrelation.wf _ (measure fun name => (schedule.weight? name).getD 0).wf
  intro used name depends
  obtain ⟨weight, weighed⟩ := (exists_weight_iff scheduled name).2 depends.1
  obtain ⟨usedWeight, usedWeighed, lighter⟩ :=
    exists_lighter_of_depends scheduled name used weight weighed depends
  change (schedule.weight? used).getD 0 < (schedule.weight? name).getD 0
  rw [weighed, usedWeighed]
  exact lighter

end Dependency

namespace Library

theorem mem_requested_iff (library : Library) (requested : List String) (name : String) :
    name ∈ (NameSet.ofList requested).filter (fun name => library.contains name) ↔
      name ∈ requested.filter library.contains := by
  rw [NameSet.mem_filter, NameSet.mem_of_list, List.mem_filter]

/-- Of the requested names those with a block are ordered, unless one of them depends on itself.
Each of them has the length of the longest chain of dependencies below it as its weight, and the
others have none. The order lists each of them once, by weight and then by name, behind all that it
depends on. Repeats, names without a block and the order of the request make no difference. -/
theorem schedule_by_longest_chains (library : Library) (requested : List String) :
    let names := requested.filter library.contains
    ((∃ schedule, library.schedule requested = .ok schedule) ↔
      ¬ Cyclic library.symbolsOf names) ∧
    (∀ schedule, library.schedule requested = .ok schedule →
      (∀ name ∈ names, ∃ weight, schedule.weight? name = some weight ∧
        IsLongest library.symbolsOf names name weight) ∧
      (∀ name, name ∉ names → schedule.weight? name = none) ∧
      (∀ name, name ∈ schedule.order ↔ name ∈ names) ∧
      schedule.order.Nodup ∧
      schedule.order.Pairwise schedule.Precedes ∧
      (∀ before name after, schedule.order = before ++ name :: after →
        ∀ used, Depends library.symbolsOf names name used → used ∈ before)) ∧
    (∀ other : List String,
      (∀ name, library.contains name = true → (name ∈ other ↔ name ∈ requested)) →
      library.schedule other = library.schedule requested) := by
  intro names
  have same := mem_requested_iff library requested
  refine ⟨?_, ?_, ?_⟩
  · rw [← cyclic_congr _ _ same]
    exact schedulable_iff library.symbolsOf _
  · intro schedule scheduled
    refine ⟨?_, ?_, ?_, order_nodup scheduled, order_ascends scheduled, ?_⟩
    · intro name member
      obtain ⟨weight, weighed⟩ := (exists_weight_iff scheduled name).2 ((same name).2 member)
      have longest := (weight_eq_some_iff scheduled name weight).1 weighed
      exact ⟨weight, weighed, (is_longest_congr _ _ same name weight).1 longest⟩
    · intro name absent
      exact weight_eq_none_of_not_mem scheduled name (mt (same name).1 absent)
    · intro name
      rw [← same]
      exact mem_order_iff scheduled name
    · intro before name after split used depends
      rw [← depends_congr _ _ same] at depends
      exact mem_before_of_depends scheduled before after name used split depends
  · intro other agrees
    have sets : (NameSet.ofList other).filter (fun name => library.contains name) =
        (NameSet.ofList requested).filter (fun name => library.contains name) := by
      apply NameSet.ext
      intro name
      rw [mem_requested_iff, mem_requested_iff, List.mem_filter, List.mem_filter]
      exact and_congr_left (agrees name)
    rw [schedule, schedule, sets]

end Library

end PairLoop
