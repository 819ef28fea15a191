import Mathlib.Data.Fintype.Card
import Mathlib.Data.Set.Finite.Basic
import Mathlib.Logic.Relation
import Mathlib.Order.WellFounded
import PairLoop.Dependency.Schedule

/-!
Dependencies among the names of a list, chains of dependencies and cycles. A chain can always be
cut short, and a name on a cycle begins chains of every length. As a list has finitely many names,
a name from which every way can be continued leads to a cycle.
-/

namespace PairLoop.Dependency

open Relation

/-- A name of a list uses another name of the list. -/
def Depends (uses : String → NameSet) (names : List String) (name used : String) : Prop :=
  name ∈ names ∧ used ∈ names ∧ used ∈ uses name ∧ used ≠ name

/-- A chain of dependencies that begins at a name, with the number of its steps. -/
inductive Chain (uses : String → NameSet) (names : List String) : String → Nat → Prop
  | stop {name : String} (member : name ∈ names) : Chain uses names name 0
  | step {name used : String} {length : Nat} (depends : Depends uses names name used)
      (rest : Chain uses names used length) : Chain uses names name (length + 1)

/-- No chain that begins at the name has more steps, and one has as many. -/
def IsLongest (uses : String → NameSet) (names : List String) (name : String) (length : Nat) :
    Prop :=
  Chain uses names name length ∧ ∀ other, Chain uses names name other → other ≤ length

/-- Some name depends on itself by way of other names. -/
def Cyclic (uses : String → NameSet) (names : List String) : Prop :=
  ∃ name, TransGen (Depends uses names) name name

variable {uses : String → NameSet} {names : List String}

theorem chain_zero_iff (name : String) : Chain uses names name 0 ↔ name ∈ names := by
  constructor
  · intro chain
    cases chain with
    | stop member => exact member
  · exact .stop

theorem chain_succ_iff (name : String) (length : Nat) :
    Chain uses names name (length + 1) ↔
      ∃ used, Depends uses names name used ∧ Chain uses names used length := by
  constructor
  · intro chain
    cases chain with
    | step depends rest => exact ⟨_, depends, rest⟩
  · intro first
    rcases first with ⟨used, depends, rest⟩
    exact .step depends rest

theorem chain_cut (name : String) (length : Nat) (chain : Chain uses names name (length + 1)) :
    Chain uses names name length := by
  induction length generalizing name with
  | zero =>
    obtain ⟨used, depends, _⟩ := (chain_succ_iff name 0).1 chain
    exact .stop depends.1
  | succ length induction =>
    obtain ⟨used, depends, rest⟩ := (chain_succ_iff name (length + 1)).1 chain
    exact .step depends (induction used rest)

theorem chain_of_le (name : String) (short long : Nat) (chain : Chain uses names name long)
    (shorter : short ≤ long) : Chain uses names name short := by
  induction shorter with
  | refl => exact chain
  | step _ induction => exact induction (chain_cut name _ chain)

theorem is_longest_unique (name : String) (first second : Nat)
    (firstLongest : IsLongest uses names name first)
    (secondLongest : IsLongest uses names name second) : first = second := by
  have above := firstLongest.2 second secondLongest.1
  have below := secondLongest.2 first firstLongest.1
  omega

/-- What a name depends on begins shorter chains only. -/
theorem longest_lt_of_depends (name used : String) (length usedLength : Nat)
    (longest : IsLongest uses names name length)
    (usedLongest : IsLongest uses names used usedLength)
    (depends : Depends uses names name used) : usedLength < length :=
  longest.2 (usedLength + 1) (.step depends usedLongest.1)

theorem chain_of_path (name used : String) (length : Nat)
    (path : TransGen (Depends uses names) name used) (rest : Chain uses names used length) :
    Chain uses names name (length + 1) := by
  induction path using TransGen.head_induction_on with
  | single depends => exact .step depends rest
  | head depends _ induction => exact .step depends (chain_cut _ _ induction)

theorem chain_of_cycle (name : String) (cycle : TransGen (Depends uses names) name name)
    (length : Nat) : Chain uses names name length := by
  induction length with
  | zero =>
    obtain ⟨used, depends, _⟩ := TransGen.head'_iff.1 cycle
    exact .stop depends.1
  | succ length induction => exact chain_of_path name name length cycle induction

/-- Where every name has a dependency, each name leads to a cycle. Otherwise the names to which it
leads would have a last one. -/
theorem leads_to_cycle (continued : ∀ name ∈ names, ∃ used, Depends uses names name used)
    (name : String) (member : name ∈ names) :
    ∃ other, ReflTransGen (Depends uses names) name other ∧
      TransGen (Depends uses names) other other := by
  by_contra acyclic
  let Ahead := { other : String // other ∈ names ∧ ReflTransGen (Depends uses names) name other }
  let Below (first second : Ahead) : Prop := TransGen (Depends uses names) second.1 first.1
  have finite : Finite Ahead :=
    Set.Finite.subset (List.finite_toSet names) fun other ahead => ahead.1
  have transitive : IsTrans Ahead Below := ⟨fun _ _ _ first second => second.trans first⟩
  have irreflexive : Std.Irrefl Below :=
    ⟨fun other cycle => acyclic ⟨other.1, other.2.2, cycle⟩⟩
  have wellFounded := Finite.wellFounded_of_trans_of_irrefl Below
  obtain ⟨last, _, minimal⟩ := wellFounded.has_min Set.univ ⟨⟨name, member, .refl⟩, trivial⟩
  obtain ⟨used, depends⟩ := continued last.1 last.2.1
  exact minimal ⟨used, depends.2.1, last.2.2.tail depends⟩ trivial (.single depends)

/-- Where dependencies lead down, none comes back. -/
theorem acyclic_of_descends (rank : String → Nat)
    (descends : ∀ name used, Depends uses names name used → rank used < rank name) :
    ¬ Cyclic uses names := by
  rintro ⟨name, cycle⟩
  have lower : ∀ used, TransGen (Depends uses names) name used → rank used < rank name := by
    intro used path
    induction path with
    | single depends => exact descends _ _ depends
    | tail _ depends induction => exact Nat.lt_trans (descends _ _ depends) induction
  exact Nat.lt_irrefl _ (lower name cycle)

theorem depends_of_subset (uses : String → NameSet) (small large : List String)
    (subset : small ⊆ large) : Depends uses small ≤ Depends uses large := by
  intro name used depends
  exact ⟨subset depends.1, subset depends.2.1, depends.2.2⟩

/-- Dependencies see the members of a list only. -/
theorem depends_congr (first second : List String)
    (same : ∀ name, name ∈ first ↔ name ∈ second) : Depends uses first = Depends uses second := by
  funext name used
  simp only [Depends, same]

theorem chain_congr (first second : List String)
    (same : ∀ name, name ∈ first ↔ name ∈ second) (name : String) (length : Nat) :
    Chain uses first name length ↔ Chain uses second name length := by
  induction length generalizing name with
  | zero => rw [chain_zero_iff, chain_zero_iff, same]
  | succ length induction =>
    simp only [chain_succ_iff, depends_congr first second same, induction]

theorem is_longest_congr (first second : List String)
    (same : ∀ name, name ∈ first ↔ name ∈ second) (name : String) (length : Nat) :
    IsLongest uses first name length ↔ IsLongest uses second name length := by
  simp only [IsLongest, chain_congr first second same]

theorem cyclic_congr (first second : List String)
    (same : ∀ name, name ∈ first ↔ name ∈ second) : Cyclic uses first ↔ Cyclic uses second := by
  simp only [Cyclic, depends_congr first second same]

end PairLoop.Dependency
