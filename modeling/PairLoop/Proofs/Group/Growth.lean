import PairLoop.Proofs.Dependency.ClosedPart
import PairLoop.Proofs.Group.Resolution
import PairLoop.Proofs.Group.Update

/-!
Groups that take more. Blocks that further arguments call for are put between those that were
there, which keep their order, and nothing that could be resolved for more arguments fails to be
resolved for fewer.
-/

namespace PairLoop

namespace Resolution

theorem refused_of_fewer_arguments (library : Library) (config : Config)
    (few many : List Equation)
    (taken : ∀ equation ∈ few, ∀ argument ∈ equation.arguments .perPair config.receiver,
      ∃ other ∈ many, argument ∈ other.arguments .perPair config.receiver)
    (refused : Refused library config few) : Refused library config many := by
  rcases refused with ⟨strict, equation, listed, argument, given, unknown⟩
  obtain ⟨other, otherListed, otherGiven⟩ := taken equation listed argument given
  exact ⟨strict, other, otherListed, argument, otherGiven, unknown⟩

theorem order_of_fewer_arguments (library : Library) (config : Config)
    (few many : List Equation)
    (taken : ∀ equation ∈ few, ∀ argument ∈ equation.arguments .perPair config.receiver,
      ∃ other ∈ many, argument ∈ other.arguments .perPair config.receiver)
    (names : List String) (ordered : order library config many = .ok names) :
    ∃ fewer, order library config few = .ok fewer ∧ fewer.Sublist names := by
  obtain ⟨accepted, large, scheduled, rfl⟩ := (order_eq_ok_iff ..).1 ordered
  have subset : ∀ argument ∈ (pairArguments config.receiver few).map Prod.snd,
      argument ∈ (pairArguments config.receiver many).map Prod.snd := by
    intro argument member
    obtain ⟨equation, listed, given⟩ := (mem_pair_arguments_iff ..).1 member
    exact (mem_pair_arguments_iff ..).2 (taken equation listed argument given)
  obtain ⟨small, smallScheduled, _, order⟩ :=
    Library.exists_schedule_of_fewer_seeds library _ _ subset large scheduled
  refine ⟨small.order, ?_, ?_⟩
  · apply (order_eq_ok_iff ..).2
    -- A name that is unknown to fewer equations would have been unknown to more as well.
    have stillAccepted := mt (refused_of_fewer_arguments library config few many taken) accepted
    exact ⟨stillAccepted, small, smallScheduled, rfl⟩
  · rw [order]
    exact List.filter_sublist

end Resolution

namespace Group

/-- Of two closures that of fewer seeds can be ordered if the other can. Its names have the same
weights in both schedules, and its order is the larger one without the other names. A group that
takes more arguments therefore resolves the same blocks in the same order, and further ones between
them. -/
theorem resolved_blocks_of_fewer_seeds (library : Library) :
    (∀ fewer more : List String, (∀ seed ∈ fewer, seed ∈ more) → ∀ large,
      library.schedule (library.closure more).toList = .ok large →
        ∃ small, library.schedule (library.closure fewer).toList = .ok small ∧
          (∀ name ∈ library.closure fewer, ∃ weight,
            small.weight? name = some weight ∧ large.weight? name = some weight) ∧
          small.order = large.order.filter fun name => decide (name ∈ library.closure fewer)) ∧
    (∀ (group : Group) (few many : List Equation), group.library = library →
      (∀ equation ∈ few, ∀ argument ∈ equation.arguments .perPair group.config.receiver,
        ∃ other ∈ many, argument ∈ other.arguments .perPair group.config.receiver) → ∀ large,
      (group.withEquations many).update = .ok large →
        ∃ small, (group.withEquations few).update = .ok small ∧
          small.resolution.precomputed.names.Sublist large.resolution.precomputed.names) := by
  constructor
  · intro fewer more subset large scheduled
    exact Library.exists_schedule_of_fewer_seeds library fewer more subset large scheduled
  · intro group few many sameLibrary taken large updated
    subst sameLibrary
    obtain ⟨resolution, found, rfl⟩ := (update_eq_ok_iff ..).1 updated
    obtain ⟨names, ordered, rfl⟩ := (Resolution.resolve_eq_ok_iff ..).1 found
    obtain ⟨fewer, fewerOrdered, sublist⟩ :=
      Resolution.order_of_fewer_arguments group.library group.config few many taken names ordered
    have resolves : Resolution.resolve group.library group.config few =
        .ok (Resolution.ofOrder group.library few fewer) :=
      (Resolution.resolve_eq_ok_iff ..).2 ⟨fewer, fewerOrdered, rfl⟩
    refine ⟨_, (update_eq_ok_iff ..).2 ⟨_, resolves, rfl⟩, ?_⟩
    have fewerNames := Resolution.of_order_names group.library group.config few fewer fewerOrdered
    have moreNames := Resolution.of_order_names group.library group.config many names ordered
    change (Resolution.ofOrder group.library few fewer).precomputed.names.Sublist
      (Resolution.ofOrder group.library many names).precomputed.names
    rw [fewerNames, moreNames]
    exact sublist

/-- With a further equation, "d" and "c" come in between and behind, and "b" is still before "a". -/
theorem resolved_blocks_of_fewer_seeds_in_chains :
    let library := Library.ofUses [("a", ["b"]), ("b", []), ("c", ["a", "b"]), ("d", []),
      ("p", ["q"]), ("q", ["p"])]
    let drag := (Equation.ofClass "Drag" "fluid" ["fluid"]).withBehavior .perPair ["self", "a"]
    let push := (Equation.ofClass "Push" "fluid" ["fluid"]).withBehavior .perPair ["d", "c", "a"]
    let group : Group := ⟨library, .standard, [], .blank⟩
    (∃ large, library.schedule (library.closure ["c", "?", "a", "d"]).toList = .ok large ∧
      large.order = ["b", "d", "a", "c"] ∧
      ∃ small, library.schedule (library.closure ["?", "a"]).toList = .ok small ∧
        small.order = ["b", "a"]) ∧
    (∃ large, (group.withEquations [push, drag]).update = .ok large ∧
      large.resolution.precomputed.names = ["b", "d", "a", "c"] ∧
      ∃ small, (group.withEquations [drag]).update = .ok small ∧
        small.resolution.precomputed.names.Sublist large.resolution.precomputed.names) := by
  intro library drag push group
  have bySeeds : (library.schedule (library.closure ["c", "?", "a", "d"]).toList).map
      Schedule.order = .ok ["b", "d", "a", "c"] := by
    decide +kernel
  have byEquations : (group.withEquations [push, drag]).update.map
      (fun group => group.resolution.precomputed.names) = .ok ["b", "d", "a", "c"] := by
    decide +kernel
  obtain ⟨large, scheduled, order⟩ := (except_map_eq_ok_iff ..).1 bySeeds
  obtain ⟨larger, updated, names⟩ := (except_map_eq_ok_iff ..).1 byEquations
  have parts := resolved_blocks_of_fewer_seeds library
  constructor
  · refine ⟨large, scheduled, order, ?_⟩
    obtain ⟨small, smallScheduled, _, smallOrder⟩ :=
      parts.1 ["?", "a"] ["c", "?", "a", "d"] (by decide) large scheduled
    refine ⟨small, smallScheduled, ?_⟩
    rw [smallOrder, order]
    decide +kernel
  · refine ⟨larger, updated, names, ?_⟩
    exact parts.2 group [drag] [push, drag] rfl (by decide) larger updated

end Group

end PairLoop
