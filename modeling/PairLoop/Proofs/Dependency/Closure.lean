import PairLoop.Proofs.Dependency.Reach

/-!
The closure of seeds as the least set that is closed under the uses of blocks. A search that goes
on as long as a round has found names comes to an end with this set, also where blocks use each
other in a circle: every round but the last takes names away from those not found yet.
-/

namespace PairLoop

open Relation Dependency

namespace Dependency

/-- A search without a bound on its rounds. As long as the frontier holds names, their discoveries
are added to what has been found and become the next frontier. -/
inductive Ends (candidates : NameSet) (successors : String → NameSet) :
    NameSet → NameSet → NameSet → Prop
  | stop (found : NameSet) : Ends candidates successors found ∅ found
  | round (found frontier result : NameSet) (more : frontier ≠ ∅)
      (rest : Ends candidates successors (found ∪ discoveries candidates successors found frontier)
        (discoveries candidates successors found frontier) result) :
      Ends candidates successors found frontier result

variable {candidates : NameSet} {successors : String → NameSet} {found frontier : NameSet}

/-- The round that discovers nothing is the last. -/
theorem ends_of_no_discovery (nothing : discoveries candidates successors found frontier = ∅) :
    Ends candidates successors found frontier found := by
  by_cases done : frontier = ∅
  · rw [done]
    exact .stop found
  · apply Ends.round found frontier found done
    rw [nothing]
    exact .stop found

/-- With as many rounds as names are missing, a bounded search is not cut short. -/
theorem ends_search (rounds : Nat) (enough : (missing candidates found).size ≤ rounds) :
    Ends candidates successors found frontier
      (search candidates successors rounds found frontier) := by
  induction rounds generalizing found frontier with
  | zero =>
    apply ends_of_no_discovery
    rw [NameSet.eq_empty_iff]
    intro name discovered
    have fresh := ((mem_discoveries ..).1 discovered).2
    have positive : 0 < (missing candidates found).size :=
      List.length_pos_of_mem ((mem_missing ..).2 fresh)
    omega
  | succ rounds induction =>
    rw [search]
    split
    · next last => exact ends_of_no_discovery ((NameSet.is_empty_iff _).1 last)
    · next more =>
      rw [NameSet.is_empty_iff, NameSet.eq_empty_iff, Classical.not_forall_not] at more
      obtain ⟨name, discovered⟩ := more
      have fresh := ((mem_discoveries ..).1 discovered).2
      have fewer := missing_union_size_lt candidates found _ name ((mem_missing ..).2 fresh)
        discovered
      refine .round found frontier _ ?_ (induction (by omega))
      -- Only names of the frontier have successors to discover.
      intro empty
      obtain ⟨source, known, _⟩ := ((mem_discoveries ..).1 discovered).1
      exact (NameSet.eq_empty_iff frontier).1 empty source known

theorem ends_unique (first second : NameSet)
    (firstEnds : Ends candidates successors found frontier first)
    (secondEnds : Ends candidates successors found frontier second) : first = second := by
  induction firstEnds with
  | stop found =>
    cases secondEnds with
    | stop => rfl
    | round _ _ _ more => exact absurd rfl more
  | round found frontier result more _ induction =>
    cases secondEnds with
    | stop => exact absurd rfl more
    | round _ _ _ _ rest => exact induction rest

end Dependency

namespace Library

/-- The block of a name uses another block. -/
def UsesBlock (library : Library) (name used : String) : Prop :=
  library.Uses name used ∧ used ∈ library.names

/-- The seeds that have a block. -/
def availableSeeds (library : Library) (seeds : List String) : NameSet :=
  (NameSet.ofList seeds).filter fun seed => decide (seed ∈ library.nameSet)

theorem leads_eq_uses_block (library : Library) :
    Leads library.nameSet library.symbolsOf = library.UsesBlock := by
  funext name used
  apply propext
  unfold Leads UsesBlock
  rw [mem_symbols_of, mem_name_set]

theorem ends_closure (library : Library) (seeds : List String) :
    Ends library.nameSet library.symbolsOf (library.availableSeeds seeds)
      (library.availableSeeds seeds) (library.closure seeds) := by
  apply ends_search
  exact List.length_filter_le ..

/-- The closure of seeds holds the seeds that have a block and, with every name, the blocks that its
block uses, and it is the least set that does. It consists of what is reached from the seeds that
have a block by uses of blocks, and the search for it comes to an end with nothing else. -/
theorem closure_least_closed (library : Library) (seeds : List String) :
    (∀ seed ∈ seeds, seed ∈ library.names → seed ∈ library.closure seeds) ∧
    (∀ name ∈ library.closure seeds, ∀ used, library.UsesBlock name used →
      used ∈ library.closure seeds) ∧
    (∀ Inside : String → Prop, (∀ seed ∈ seeds, seed ∈ library.names → Inside seed) →
      (∀ name used, Inside name → library.UsesBlock name used → Inside used) →
      ∀ name ∈ library.closure seeds, Inside name) ∧
    (∀ name, name ∈ library.closure seeds ↔
      ∃ seed ∈ seeds, seed ∈ library.names ∧ ReflTransGen library.UsesBlock seed name) ∧
    (∀ result, Ends library.nameSet library.symbolsOf (library.availableSeeds seeds)
      (library.availableSeeds seeds) result ↔ result = library.closure seeds) := by
  have reached : ∀ name, name ∈ library.closure seeds ↔
      ∃ seed ∈ seeds, seed ∈ library.names ∧ ReflTransGen library.UsesBlock seed name := by
    intro name
    rw [closure, mem_reach_iff, leads_eq_uses_block]
    simp only [NameSet.mem_of_list, mem_name_set]
  refine ⟨?_, ?_, ?_, reached, ?_⟩
  · intro seed given available
    exact (reached seed).2 ⟨seed, given, available, .refl⟩
  · intro name member used uses
    obtain ⟨seed, given, available, path⟩ := (reached name).1 member
    exact (reached used).2 ⟨seed, given, available, path.tail uses⟩
  · intro Inside started kept name member
    obtain ⟨seed, given, available, path⟩ := (reached name).1 member
    induction path with
    | refl => exact started seed given available
    | tail path uses induction =>
      have inClosure := (reached _).2 ⟨seed, given, available, path⟩
      exact kept _ _ (induction inClosure) uses
  · intro result
    constructor
    · intro ends
      exact ends_unique result _ ends (library.ends_closure seeds)
    · intro same
      rw [same]
      exact library.ends_closure seeds

end Library

end PairLoop
