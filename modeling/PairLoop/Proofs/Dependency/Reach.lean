import Mathlib.Logic.Relation
import PairLoop.Dependency.Closure

/-!
A search finds exactly the names that can be reached from where it starts. Only names that the
last round found can have successors that are still unknown, and every round but the last takes
at least one candidate away from those not found yet, so the number of candidates is enough rounds.
-/

namespace PairLoop.Dependency

open Relation

/-- A step of a search leads from a name to a successor among the candidates. -/
def Leads (candidates : NameSet) (successors : String → NameSet) (source target : String) : Prop :=
  target ∈ successors source ∧ target ∈ candidates

/-- The candidates that a search has not found. -/
def missing (candidates found : NameSet) : NameSet :=
  candidates.filter fun name => !decide (name ∈ found)

theorem mem_missing (candidates found : NameSet) (name : String) :
    name ∈ missing candidates found ↔ name ∈ candidates ∧ name ∉ found := by
  rw [missing, NameSet.mem_filter, Bool.not_eq_true', decide_eq_false_iff_not]

theorem missing_union_size_lt (candidates found next : NameSet) (name : String)
    (fresh : name ∈ missing candidates found) (discovered : name ∈ next) :
    (missing candidates (found ∪ next)).size < (missing candidates found).size := by
  have smaller : missing candidates (found ∪ next) =
      (missing candidates found).filter fun other => !decide (other ∈ next) := by
    apply NameSet.ext
    intro other
    rw [mem_missing, NameSet.mem_filter, mem_missing, NameSet.mem_union, Bool.not_eq_true',
      decide_eq_false_iff_not, not_or, and_assoc]
  rw [smaller]
  apply List.length_filter_lt_length_iff_exists.2
  exact ⟨name, fresh, by simp [discovered]⟩

/-- A search finds nothing beyond a collection that no step leaves. -/
theorem search_stays_inside (candidates : NameSet) (successors : String → NameSet)
    (Inside : String → Prop)
    (kept : ∀ source target, Inside source → Leads candidates successors source target →
      Inside target)
    (rounds : Nat) (found frontier : NameSet)
    (foundInside : ∀ name ∈ found, Inside name)
    (frontierInside : ∀ name ∈ frontier, Inside name) :
    ∀ name ∈ search candidates successors rounds found frontier, Inside name := by
  induction rounds generalizing found frontier with
  | zero => exact foundInside
  | succ rounds induction =>
    have nextInside : ∀ name ∈ discoveries candidates successors found frontier, Inside name := by
      intro name discovered
      obtain ⟨⟨source, known, succeeds⟩, candidate, _⟩ := (mem_discoveries ..).1 discovered
      exact kept source name (frontierInside source known) ⟨succeeds, candidate⟩
    rw [search]
    split
    · exact foundInside
    · apply induction _ _ _ nextInside
      intro name member
      rcases (NameSet.mem_union ..).1 member with old | new
      · exact foundInside name old
      · exact nextInside name new

/-- With enough rounds, what a search has found in the end is left by no step. What it is called
with may be left from the frontier only. -/
theorem search_closed (candidates : NameSet) (successors : String → NameSet) (rounds : Nat)
    (found frontier : NameSet) (enough : (missing candidates found).size ≤ rounds)
    (expanded : ∀ source ∈ found, source ∉ frontier → ∀ target,
      Leads candidates successors source target → target ∈ found) :
    ∀ source ∈ search candidates successors rounds found frontier, ∀ target,
      Leads candidates successors source target →
        target ∈ search candidates successors rounds found frontier := by
  induction rounds generalizing found frontier with
  | zero =>
    intro source _ target leads
    by_cases old : target ∈ found
    · exact old
    · have listed := (mem_missing candidates found target).2 ⟨leads.2, old⟩
      have positive : 0 < (missing candidates found).size := List.length_pos_of_mem listed
      omega
  | succ rounds induction =>
    have stepsCovered : ∀ source ∈ found, ∀ target, Leads candidates successors source target →
        target ∈ found ∨ target ∈ discoveries candidates successors found frontier := by
      intro source known target leads
      by_cases inFrontier : source ∈ frontier
      · by_cases old : target ∈ found
        · exact .inl old
        · exact .inr ((mem_discoveries ..).2 ⟨⟨source, inFrontier, leads.1⟩, leads.2, old⟩)
      · exact .inl (expanded source known inFrontier target leads)
    rw [search]
    split
    · next last =>
      intro source known target leads
      rcases stepsCovered source known target leads with old | new
      · exact old
      · have nothing := List.isEmpty_iff.1 last
        rw [← NameSet.mem_to_list, nothing] at new
        exact absurd new List.not_mem_nil
    · next more =>
      obtain ⟨name, discovered⟩ := List.exists_mem_of_ne_nil _ (mt List.isEmpty_iff.2 more)
      have fresh := (mem_discoveries ..).1 discovered
      have fewer := missing_union_size_lt candidates found _ name
        ((mem_missing ..).2 fresh.2) discovered
      apply induction _ _ (by omega)
      intro source member notNew target leads
      rcases (NameSet.mem_union ..).1 member with old | new
      · exact (NameSet.mem_union ..).2 (stepsCovered source old target leads)
      · exact absurd new notNew

theorem mem_reach_iff (candidates : NameSet) (successors : String → NameSet) (seeds : NameSet)
    (name : String) :
    name ∈ reach candidates successors seeds ↔
      ∃ seed ∈ seeds, seed ∈ candidates ∧
        ReflTransGen (Leads candidates successors) seed name := by
  let start := seeds.filter fun name => decide (name ∈ candidates)
  have started : ∀ name, name ∈ start ↔ name ∈ seeds ∧ name ∈ candidates := by
    intro name
    rw [NameSet.mem_filter, decide_eq_true_iff]
  have initially : ∀ name ∈ start, ∃ seed ∈ seeds, seed ∈ candidates ∧
      ReflTransGen (Leads candidates successors) seed name := by
    intro name member
    exact ⟨name, ((started name).1 member).1, ((started name).1 member).2, .refl⟩
  have enough : (missing candidates start).size ≤ candidates.size := List.length_filter_le ..
  have closed := search_closed candidates successors candidates.size start start enough
    (fun source known fresh => absurd known fresh)
  constructor
  · apply search_stays_inside candidates successors _ _ _ _ _ initially initially
    intro source target reached leads
    rcases reached with ⟨seed, given, candidate, path⟩
    exact ⟨seed, given, candidate, path.tail leads⟩
  · intro reached
    rcases reached with ⟨seed, given, candidate, path⟩
    induction path with
    | refl =>
      exact mem_search_of_mem _ _ _ _ _ seed ((started seed).2 ⟨given, candidate⟩)
    | tail _ leads induction => exact closed _ induction _ leads

end PairLoop.Dependency

namespace PairLoop.Library

open Relation Dependency

/-- The library of blocks with the given names and uses. Their fragments are empty. -/
def ofUses (uses : List (String × List String)) : Library :=
  ofBlocks (uses.map fun entry => ⟨entry.1, "", .ofList entry.2, ∅, none⟩)

/-- The block of a name uses another name. -/
def Uses (library : Library) (name used : String) : Prop :=
  ∃ block, library.find? name = some block ∧ used ∈ block.symbols

theorem mem_names_of_find (library : Library) (name : String) (block : CodeBlock)
    (found : library.find? name = some block) : name ∈ library.names :=
  (Bindings.find_is_some library name).1 (found ▸ rfl)

theorem mem_symbols_of (library : Library) (name used : String) :
    used ∈ library.symbolsOf name ↔ library.Uses name used := by
  unfold symbolsOf Uses
  cases library.find? name with
  | none => simp [NameSet.not_mem_empty]
  | some block => simp

/-- On a way to a block every name has a block, since it uses the next one. -/
theorem leads_of_uses (library : Library) (source target : String)
    (available : target ∈ library.names) (path : ReflTransGen library.Uses source target) :
    source ∈ library.names ∧
      ReflTransGen (Leads library.nameSet library.symbolsOf) source target := by
  induction path using ReflTransGen.head_induction_on with
  | refl => exact ⟨available, .refl⟩
  | head uses _ induction =>
    rcases induction with ⟨nextAvailable, rest⟩
    have leads := And.intro ((mem_symbols_of ..).2 uses) ((mem_name_set ..).2 nextAvailable)
    rcases uses with ⟨block, found, _⟩
    exact ⟨mem_names_of_find library _ block found, .head leads rest⟩

/-- The closure of seeds holds the names of the blocks to which uses lead from a seed. -/
theorem mem_closure_iff (library : Library) (seeds : List String) (name : String) :
    name ∈ library.closure seeds ↔
      name ∈ library.names ∧ ∃ seed ∈ seeds, ReflTransGen library.Uses seed name := by
  rw [closure, mem_reach_iff]
  constructor
  · intro reached
    rcases reached with ⟨seed, given, available, path⟩
    refine ⟨?_, seed, (NameSet.mem_of_list ..).1 given, ?_⟩
    · cases path with
      | refl => exact (mem_name_set ..).1 available
      | tail _ leads => exact (mem_name_set ..).1 leads.2
    · have everyStep : Leads library.nameSet library.symbolsOf ≤ library.Uses :=
        fun source target leads => (mem_symbols_of library source target).1 leads.1
      exact ReflTransGen.mono everyStep _ _ path
  · intro reached
    rcases reached with ⟨available, seed, given, path⟩
    obtain ⟨seedAvailable, steps⟩ := leads_of_uses library seed name available path
    exact ⟨seed, (NameSet.mem_of_list ..).2 given, (mem_name_set ..).2 seedAvailable, steps⟩

end PairLoop.Library
