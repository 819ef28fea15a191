/-!
Finite sets of names. A set is kept as the strictly ascending list of its members, in the order
of their code points, so two sets with the same members are equal and a listing of a set needs
no sorting. The main statement is `ext`.
-/

namespace PairLoop

/-- A finite set of names, held in ascending order. -/
structure NameSet where
  toList : List String
  ascending : toList.Pairwise (· < ·)
deriving DecidableEq

namespace NameSet

instance : Membership String NameSet := ⟨fun set name => name ∈ set.toList⟩

instance (name : String) (set : NameSet) : Decidable (name ∈ set) :=
  inferInstanceAs (Decidable (name ∈ set.toList))

theorem mem_to_list (name : String) (set : NameSet) : name ∈ set.toList ↔ name ∈ set := Iff.rfl

def empty : NameSet := ⟨[], List.Pairwise.nil⟩

instance : EmptyCollection NameSet := ⟨empty⟩
instance : Inhabited NameSet := ⟨empty⟩

theorem not_mem_empty (name : String) : name ∉ (∅ : NameSet) := List.not_mem_nil

def size (set : NameSet) : Nat := set.toList.length

def isEmpty (set : NameSet) : Bool := set.toList.isEmpty

/-- Puts a name into its place of an ascending list, unless it is there already. -/
def place (name : String) : List String → List String
  | [] => [name]
  | head :: tail =>
    if name < head then name :: head :: tail
    else if name = head then head :: tail
    else head :: place name tail

theorem mem_place (name other : String) (names : List String) :
    other ∈ place name names ↔ other = name ∨ other ∈ names := by
  induction names with
  | nil => simp [place]
  | cons head tail induction =>
    unfold place
    split
    · simp
    · split
      · next same => subst same; simp
      · simp [induction, or_left_comm]

theorem place_ascending (name : String) (names : List String)
    (ascending : names.Pairwise (· < ·)) : (place name names).Pairwise (· < ·) := by
  induction names with
  | nil => simp [place]
  | cons head tail induction =>
    have parts := List.pairwise_cons.1 ascending
    unfold place
    split
    · next before =>
      refine List.pairwise_cons.2 ⟨?_, ascending⟩
      intro other member
      rcases List.mem_cons.1 member with same | later
      · exact same ▸ before
      · exact String.lt_trans before (parts.1 other later)
    · split
      · exact ascending
      · next notBefore different =>
        refine List.pairwise_cons.2 ⟨?_, induction parts.2⟩
        intro other member
        rcases (mem_place name other tail).1 member with same | later
        · subst same
          rcases Std.lt_trichotomy head other with less | equal | greater
          · exact less
          · exact absurd equal.symm different
          · exact absurd greater notBefore
        · exact parts.1 other later

def insert (set : NameSet) (name : String) : NameSet :=
  ⟨place name set.toList, place_ascending name set.toList set.ascending⟩

theorem mem_insert (set : NameSet) (name other : String) :
    other ∈ set.insert name ↔ other = name ∨ other ∈ set :=
  mem_place name other set.toList

def ofList (names : List String) : NameSet := names.foldr (fun name set => set.insert name) ∅

theorem mem_of_list (names : List String) (name : String) : name ∈ ofList names ↔ name ∈ names := by
  induction names with
  | nil => simp [ofList, not_mem_empty]
  | cons head tail induction =>
    change name ∈ (ofList tail).insert head ↔ _
    rw [mem_insert, induction, List.mem_cons]

def union (first second : NameSet) : NameSet :=
  second.toList.foldr (fun name set => set.insert name) first

instance : Union NameSet := ⟨union⟩

theorem mem_union (first second : NameSet) (name : String) :
    name ∈ first ∪ second ↔ name ∈ first ∨ name ∈ second := by
  change name ∈ second.toList.foldr (fun name set => set.insert name) first ↔ _
  rw [← mem_to_list name second]
  induction second.toList with
  | nil => simp
  | cons head tail induction =>
    simp only [List.foldr_cons, mem_insert, List.mem_cons, induction]
    constructor
    · rintro (same | member | later)
      · exact .inr (.inl same)
      · exact .inl member
      · exact .inr (.inr later)
    · rintro (member | same | later)
      · exact .inr (.inl member)
      · exact .inl same
      · exact .inr (.inr later)

def filter (keep : String → Bool) (set : NameSet) : NameSet :=
  ⟨set.toList.filter keep, set.ascending.filter keep⟩

theorem mem_filter (keep : String → Bool) (set : NameSet) (name : String) :
    name ∈ set.filter keep ↔ name ∈ set ∧ keep name = true :=
  List.mem_filter

def erase (set : NameSet) (name : String) : NameSet := set.filter fun other => other != name

theorem mem_erase (set : NameSet) (name other : String) :
    other ∈ set.erase name ↔ other ∈ set ∧ other ≠ name := by
  simp [erase, mem_filter]

def unionAll (sets : List NameSet) : NameSet := sets.foldr (fun set rest => rest ∪ set) ∅

theorem mem_union_all (sets : List NameSet) (name : String) :
    name ∈ unionAll sets ↔ ∃ set ∈ sets, name ∈ set := by
  induction sets with
  | nil => simp [unionAll, not_mem_empty]
  | cons head tail induction =>
    change name ∈ unionAll tail ∪ head ↔ _
    rw [mem_union, induction]
    simp [or_comm]

/-- An ascending list is determined by its members. -/
theorem ascending_eq_of_mem_iff (first second : List String)
    (firstAscending : first.Pairwise (· < ·)) (secondAscending : second.Pairwise (· < ·))
    (same : ∀ name, name ∈ first ↔ name ∈ second) : first = second := by
  induction first generalizing second with
  | nil =>
    cases second with
    | nil => rfl
    | cons head tail => exact absurd ((same head).2 List.mem_cons_self) List.not_mem_nil
  | cons head tail induction =>
    cases second with
    | nil => exact absurd ((same head).1 List.mem_cons_self) List.not_mem_nil
    | cons other rest =>
      have below := (List.pairwise_cons.1 firstAscending).1
      have otherBelow := (List.pairwise_cons.1 secondAscending).1
      have heads : head = other := by
        rcases List.mem_cons.1 ((same head).1 List.mem_cons_self) with equal | later
        · exact equal
        · rcases List.mem_cons.1 ((same other).2 List.mem_cons_self) with equal | behind
          · exact equal.symm
          · exact absurd (String.lt_trans (below other behind) (otherBelow head later))
              (String.lt_irrefl head)
      subst heads
      have tails : ∀ name, name ∈ tail ↔ name ∈ rest := by
        intro name
        constructor
        · intro member
          rcases List.mem_cons.1 ((same name).1 (List.mem_cons_of_mem _ member)) with equal | later
          · exact absurd (equal ▸ below name member) (String.lt_irrefl head)
          · exact later
        · intro member
          rcases List.mem_cons.1 ((same name).2 (List.mem_cons_of_mem _ member)) with equal | later
          · exact absurd (equal ▸ otherBelow name member) (String.lt_irrefl head)
          · exact later
      rw [induction rest (List.pairwise_cons.1 firstAscending).2
        (List.pairwise_cons.1 secondAscending).2 tails]

/-- Two sets with the same members are the same set. -/
theorem ext (first second : NameSet) (same : ∀ name, name ∈ first ↔ name ∈ second) :
    first = second := by
  have lists := ascending_eq_of_mem_iff first.toList second.toList first.ascending
    second.ascending same
  cases first
  cases second
  cases lists
  rfl

theorem eq_empty_iff (set : NameSet) : set = ∅ ↔ ∀ name, name ∉ set := by
  constructor
  · intro nothing name
    rw [nothing]
    exact not_mem_empty name
  · intro nothing
    apply ext
    intro name
    exact iff_of_false (nothing name) (not_mem_empty name)

theorem is_empty_iff (set : NameSet) : set.isEmpty = true ↔ set = ∅ := by
  rw [isEmpty, List.isEmpty_iff, eq_empty_iff, List.eq_nil_iff_forall_not_mem]
  rfl

end NameSet

end PairLoop
