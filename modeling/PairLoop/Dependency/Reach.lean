import PairLoop.NameSet

/-!
Reachability among finitely many names. A search goes on in rounds: each round takes the names that
the last one found and adds their successors that are new. As every round but the last finds a
name, there are no more rounds than names.
-/

namespace PairLoop.Dependency

/-- The names of `candidates` that succeed one of the names of `frontier` and are not in `found`. -/
def discoveries (candidates : NameSet) (successors : String → NameSet)
    (found frontier : NameSet) : NameSet :=
  (NameSet.unionAll (frontier.toList.map successors)).filter fun name =>
    decide (name ∈ candidates) && !decide (name ∈ found)

theorem mem_discoveries (candidates : NameSet) (successors : String → NameSet)
    (found frontier : NameSet) (name : String) :
    name ∈ discoveries candidates successors found frontier ↔
      (∃ source ∈ frontier, name ∈ successors source) ∧ name ∈ candidates ∧ name ∉ found := by
  rw [discoveries, NameSet.mem_filter, NameSet.mem_union_all, Bool.and_eq_true,
    decide_eq_true_iff, Bool.not_eq_true', decide_eq_false_iff_not]
  constructor
  · rintro ⟨⟨set, listed, member⟩, rest⟩
    obtain ⟨source, known, rfl⟩ := List.mem_map.1 listed
    exact ⟨⟨source, known, member⟩, rest⟩
  · rintro ⟨⟨source, known, member⟩, rest⟩
    exact ⟨⟨successors source, List.mem_map.2 ⟨source, known, rfl⟩, member⟩, rest⟩

/-- Extends what a search has found by as many rounds as are left. -/
def search (candidates : NameSet) (successors : String → NameSet) :
    Nat → NameSet → NameSet → NameSet
  | 0, found, _ => found
  | rounds + 1, found, frontier =>
    let next := discoveries candidates successors found frontier
    if next.isEmpty then found else search candidates successors rounds (found ∪ next) next

theorem mem_search_of_mem (candidates : NameSet) (successors : String → NameSet) (rounds : Nat)
    (found frontier : NameSet) (name : String) (member : name ∈ found) :
    name ∈ search candidates successors rounds found frontier := by
  induction rounds generalizing found frontier with
  | zero => exact member
  | succ rounds induction =>
    rw [search]
    by_cases last : (discoveries candidates successors found frontier).isEmpty = true
    · rw [if_pos last]
      exact member
    · rw [if_neg last]
      exact induction _ _ ((NameSet.mem_union _ _ _).2 (.inl member))

/-- The names of `candidates` that are reached from `seeds` by steps to successors that stay among
the candidates. -/
def reach (candidates : NameSet) (successors : String → NameSet) (seeds : NameSet) : NameSet :=
  let start := seeds.filter fun name => decide (name ∈ candidates)
  search candidates successors candidates.size start start

end PairLoop.Dependency
