import PairLoop.Proofs.Dependency.Reach
import PairLoop.Proofs.Dependency.Weight

/-!
Schedules of a set and of a closed part of it. No chain of dependencies leaves a closed part, so
its names have the same weights in both schedules, and the order of the part is that of the whole
with the other names left out. The closure of fewer seeds is a closed part of that of more.
-/

namespace PairLoop

open Relation Dependency

namespace Dependency

/-- A part of a set that holds all names of the set which its own names use. -/
structure ClosedPart (uses : String → NameSet) (part whole : NameSet) : Prop where
  inside : ∀ name ∈ part, name ∈ whole
  closed : ∀ name ∈ part, ∀ used ∈ whole, used ∈ uses name → used ∈ part

variable {uses : String → NameSet} {part whole : NameSet} {small large : Schedule}

theorem depends_in_part_iff (closedPart : ClosedPart uses part whole) (name used : String)
    (member : name ∈ part) :
    Depends uses part.toList name used ↔ Depends uses whole.toList name used := by
  constructor
  · intro depends
    exact depends_of_subset uses _ _ closedPart.inside name used depends
  · intro depends
    rcases depends with ⟨_, usedInside, uses, different⟩
    exact ⟨member, closedPart.closed name member used usedInside uses, uses, different⟩

theorem chain_in_part_iff (closedPart : ClosedPart uses part whole) (name : String)
    (member : name ∈ part) (length : Nat) :
    Chain uses part.toList name length ↔ Chain uses whole.toList name length := by
  induction length generalizing name with
  | zero =>
    rw [chain_zero_iff, chain_zero_iff]
    exact iff_of_true member (closedPart.inside name member)
  | succ length induction =>
    rw [chain_succ_iff, chain_succ_iff]
    -- The next name of a chain is used by a name of the part, so it lies in the part again.
    apply exists_congr
    intro used
    rw [depends_in_part_iff closedPart name used member]
    apply and_congr_right
    intro depends
    have usedMember := ((depends_in_part_iff closedPart name used member).2 depends).2.1
    exact induction used usedMember

theorem is_longest_in_part_iff (closedPart : ClosedPart uses part whole) (name : String)
    (member : name ∈ part) (length : Nat) :
    IsLongest uses part.toList name length ↔ IsLongest uses whole.toList name length := by
  simp only [IsLongest, chain_in_part_iff closedPart name member]

theorem exists_schedule_of_part (closedPart : ClosedPart uses part whole)
    (scheduled : scheduleOf uses whole = .ok large) :
    ∃ small, scheduleOf uses part = .ok small := by
  have acyclic := (schedulable_iff uses whole).1 ⟨large, scheduled⟩
  apply (schedulable_iff uses part).2
  intro cyclic
  rcases cyclic with ⟨name, cycle⟩
  -- A cycle in a part is a cycle of the whole; for this the part need not be closed.
  have wider := depends_of_subset uses part.toList whole.toList closedPart.inside
  exact acyclic ⟨name, TransGen.mono wider _ _ cycle⟩

section Schedules

variable (closedPart : ClosedPart uses part whole)
  (partScheduled : scheduleOf uses part = .ok small)
  (wholeScheduled : scheduleOf uses whole = .ok large)

include closedPart partScheduled wholeScheduled

theorem exists_common_weight (name : String) (member : name ∈ part) :
    ∃ weight, small.weight? name = some weight ∧ large.weight? name = some weight := by
  obtain ⟨weight, weighed⟩ := (exists_weight_iff partScheduled name).2 member
  have longest := (weight_eq_some_iff partScheduled name weight).1 weighed
  rw [is_longest_in_part_iff closedPart name member] at longest
  exact ⟨weight, weighed, (weight_eq_some_iff wholeScheduled name weight).2 longest⟩

theorem precedes_of_part (first second : String) (firstMember : first ∈ part)
    (secondMember : second ∈ part) (precedes : large.Precedes first second) :
    small.Precedes first second := by
  obtain ⟨weight, firstSmall, firstLarge⟩ :=
    exists_common_weight closedPart partScheduled wholeScheduled first firstMember
  obtain ⟨later, secondSmall, secondLarge⟩ :=
    exists_common_weight closedPart partScheduled wholeScheduled second secondMember
  rcases precedes with ⟨found, foundLater, firstFound, secondFound, before⟩
  rw [firstLarge, Option.some.injEq] at firstFound
  rw [secondLarge, Option.some.injEq] at secondFound
  rw [← firstFound, ← secondFound] at before
  exact ⟨weight, later, firstSmall, secondSmall, before⟩

/-- Both sides list the names of the part once, ascending in one asymmetric relation. -/
theorem order_eq_filter_of_part :
    small.order = large.order.filter fun name => decide (name ∈ part) := by
  have kept : ∀ name, name ∈ large.order.filter (fun name => decide (name ∈ part)) ↔
      name ∈ part := by
    intro name
    rw [List.mem_filter, mem_order_iff wholeScheduled, decide_eq_true_iff]
    exact and_iff_right_of_imp (closedPart.inside name)
  have ascends : (large.order.filter fun name => decide (name ∈ part)).Pairwise
      small.Precedes := by
    apply ((order_ascends wholeScheduled).filter _).imp_of_mem
    intro first second firstKept secondKept precedes
    exact precedes_of_part closedPart partScheduled wholeScheduled first second
      ((kept first).1 firstKept) ((kept second).1 secondKept) precedes
  have sameMembers : small.order.Perm (large.order.filter fun name => decide (name ∈ part)) := by
    apply (List.perm_ext_iff_of_nodup (order_nodup partScheduled)
      ((order_nodup wholeScheduled).filter _)).2
    intro name
    rw [mem_order_iff partScheduled, kept]
  -- The weights decide: with other weights the filtered order need not ascend in the part's.
  apply List.Perm.eq_of_pairwise _ (order_ascends partScheduled) ascends sameMembers
  intro first second _ _ forward backward
  exact absurd backward (precedes_asymm first second forward)

end Schedules

end Dependency

namespace Library

theorem schedule_closure (library : Library) (seeds : List String) :
    library.schedule (library.closure seeds).toList =
      scheduleOf library.symbolsOf (library.closure seeds) := by
  have same : (NameSet.ofList (library.closure seeds).toList).filter
      (fun name => library.contains name) = library.closure seeds := by
    apply NameSet.ext
    intro name
    rw [mem_requested_iff, List.mem_filter, NameSet.mem_to_list, Bindings.contains_iff]
    apply and_iff_left_of_imp
    intro member
    exact ((mem_closure_iff library seeds name).1 member).1
  rw [schedule, same]

theorem closed_part_of_fewer_seeds (library : Library) (fewer more : List String)
    (subset : ∀ seed ∈ fewer, seed ∈ more) :
    ClosedPart library.symbolsOf (library.closure fewer) (library.closure more) := by
  constructor
  · intro name member
    obtain ⟨available, seed, given, path⟩ := (mem_closure_iff ..).1 member
    exact (mem_closure_iff ..).2 ⟨available, seed, subset seed given, path⟩
  · intro name member used usedMember uses
    obtain ⟨_, seed, given, path⟩ := (mem_closure_iff ..).1 member
    have available := ((mem_closure_iff ..).1 usedMember).1
    have step := (mem_symbols_of library name used).1 uses
    exact (mem_closure_iff ..).2 ⟨available, seed, given, path.tail step⟩

/-- If the closure of some seeds can be ordered, so can that of fewer seeds. Its names keep their
weights, and its order is the larger one with the other names left out. -/
theorem exists_schedule_of_fewer_seeds (library : Library) (fewer more : List String)
    (subset : ∀ seed ∈ fewer, seed ∈ more) (large : Schedule)
    (scheduled : library.schedule (library.closure more).toList = .ok large) :
    ∃ small, library.schedule (library.closure fewer).toList = .ok small ∧
      (∀ name ∈ library.closure fewer, ∃ weight,
        small.weight? name = some weight ∧ large.weight? name = some weight) ∧
      small.order = large.order.filter fun name => decide (name ∈ library.closure fewer) := by
  rw [schedule_closure] at scheduled ⊢
  have closedPart := closed_part_of_fewer_seeds library fewer more subset
  obtain ⟨small, partScheduled⟩ := exists_schedule_of_part closedPart scheduled
  refine ⟨small, partScheduled, ?_, order_eq_filter_of_part closedPart partScheduled scheduled⟩
  exact exists_common_weight closedPart partScheduled scheduled

end Library

end PairLoop
