/-!
Values bound to names, in the order in which the names were first bound. Binding a name again
changes its value and keeps its place. The list of pairs is all there is to see, so two
collections are equal exactly when they iterate alike.
-/

namespace PairLoop

/-- Values under distinct names, in the order of their first binding. -/
structure Bindings (Value : Type) where
  pairs : List (String × Value)
  distinct : (pairs.map Prod.fst).Nodup

namespace Bindings

variable {Value : Type}

theorem ext (first second : Bindings Value) (same : first.pairs = second.pairs) :
    first = second := by
  cases first
  cases second
  cases same
  rfl

def names (bindings : Bindings Value) : List String := bindings.pairs.map Prod.fst

def values (bindings : Bindings Value) : List Value := bindings.pairs.map Prod.snd

def size (bindings : Bindings Value) : Nat := bindings.pairs.length

def isEmpty (bindings : Bindings Value) : Bool := bindings.pairs.isEmpty

def empty : Bindings Value := ⟨[], List.nodup_nil⟩

instance : EmptyCollection (Bindings Value) := ⟨empty⟩
instance : Inhabited (Bindings Value) := ⟨empty⟩

def find? (bindings : Bindings Value) (name : String) : Option Value := bindings.pairs.lookup name

def contains (bindings : Bindings Value) (name : String) : Bool := bindings.names.contains name

@[simp] theorem find_empty (name : String) : (∅ : Bindings Value).find? name = none := rfl

theorem contains_iff (bindings : Bindings Value) (name : String) :
    bindings.contains name = true ↔ name ∈ bindings.names := by
  simp [contains]

/-- Binds a name in a list of pairs: in its old place, or at the end. -/
def assign (name : String) (value : Value) : List (String × Value) → List (String × Value)
  | [] => [(name, value)]
  | pair :: rest => if pair.1 = name then (name, value) :: rest else pair :: assign name value rest

theorem assign_names (name : String) (value : Value) (pairs : List (String × Value)) :
    (assign name value pairs).map Prod.fst =
      if name ∈ pairs.map Prod.fst then pairs.map Prod.fst else pairs.map Prod.fst ++ [name] := by
  induction pairs with
  | nil => simp [assign]
  | cons pair rest induction =>
    unfold assign
    by_cases same : pair.1 = name
    · simp [same]
    · have different : ¬ name = pair.1 := fun equal => same equal.symm
      simp only [same, if_false, List.map_cons, induction, List.mem_cons, different, false_or]
      split <;> simp

theorem lookup_pair_cons (name : String) (pair : String × Value) (rest : List (String × Value)) :
    (pair :: rest).lookup name = if name = pair.1 then some pair.2 else rest.lookup name := by
  rcases pair with ⟨key, value⟩
  rw [List.lookup_cons]
  by_cases same : name = key
  · subst same
    simp
  · rw [beq_eq_false_iff_ne.2 same, if_neg same]

theorem assign_lookup (name other : String) (value : Value) (pairs : List (String × Value)) :
    (assign name value pairs).lookup other =
      if other = name then some value else pairs.lookup other := by
  induction pairs with
  | nil =>
    unfold assign
    by_cases same : other = name
    · simp [same]
    · simp [lookup_pair_cons, same]
  | cons pair rest induction =>
    rcases pair with ⟨key, old⟩
    unfold assign
    by_cases found : key = name
    · subst found
      by_cases same : other = key
      · simp [same]
      · simp [lookup_pair_cons, same]
    · simp only [found, if_false]
      by_cases same : other = key
      · subst same
        simp [found]
      · simp [lookup_pair_cons, same, induction]

/-- Binds a name: a bound one keeps its place and takes the new value. -/
def insert (bindings : Bindings Value) (name : String) (value : Value) : Bindings Value where
  pairs := assign name value bindings.pairs
  distinct := by
    rw [assign_names]
    split
    · exact bindings.distinct
    · next fresh =>
      refine List.nodup_append.2 ⟨bindings.distinct, by simp, ?_⟩
      intro first member second single equal
      rw [List.mem_singleton] at single
      exact fresh (single ▸ equal ▸ member)

theorem insert_names (bindings : Bindings Value) (name : String) (value : Value) :
    (bindings.insert name value).names =
      if name ∈ bindings.names then bindings.names else bindings.names ++ [name] :=
  assign_names name value bindings.pairs

theorem insert_find (bindings : Bindings Value) (name other : String) (value : Value) :
    (bindings.insert name value).find? other =
      if other = name then some value else bindings.find? other :=
  assign_lookup name other value bindings.pairs

/-- Binds a name that is not bound yet, and leaves a bound one alone. -/
def supply (bindings : Bindings Value) (name : String) (value : Value) : Bindings Value :=
  if bindings.contains name then bindings else bindings.insert name value

def insertAll (bindings : Bindings Value) (pairs : List (String × Value)) : Bindings Value :=
  pairs.foldl (fun bound pair => bound.insert pair.1 pair.2) bindings

def ofList (pairs : List (String × Value)) : Bindings Value := insertAll ∅ pairs

def merge (first second : Bindings Value) : Bindings Value := first.insertAll second.pairs

theorem insert_all_append (bindings : Bindings Value) (first second : List (String × Value)) :
    bindings.insertAll (first ++ second) = (bindings.insertAll first).insertAll second :=
  List.foldl_append

theorem find_is_some (bindings : Bindings Value) (name : String) :
    (bindings.find? name).isSome = true ↔ name ∈ bindings.names := by
  unfold find? names
  induction bindings.pairs with
  | nil => simp
  | cons pair rest induction =>
    rcases pair with ⟨key, value⟩
    by_cases same : name = key
    · subst same
      simp
    · simp [lookup_pair_cons, same, induction]

theorem exists_find (bindings : Bindings Value) (name : String) (bound : name ∈ bindings.names) :
    ∃ value, bindings.find? name = some value :=
  Option.isSome_iff_exists.1 ((find_is_some bindings name).2 bound)

theorem lookup_eq_none_of_not_mem (name : String) (pairs : List (String × Value))
    (absent : name ∉ pairs.map Prod.fst) : pairs.lookup name = none := by
  induction pairs with
  | nil => rfl
  | cons pair rest induction =>
    rw [List.map_cons, List.mem_cons, not_or] at absent
    simp [lookup_pair_cons, absent.1, induction absent.2]

theorem supply_find (bindings : Bindings Value) (name other : String) (value : Value) :
    (bindings.supply name value).find? other =
      if other = name ∧ name ∉ bindings.names then some value else bindings.find? other := by
  unfold supply
  by_cases bound : name ∈ bindings.names
  · simp [(contains_iff bindings name).2 bound, bound]
  · have free : bindings.contains name = false := by
      simpa using mt (contains_iff bindings name).1 bound
    simp [free, insert_find, bound]

theorem insert_all_find (bindings : Bindings Value) (pairs : List (String × Value))
    (distinct : (pairs.map Prod.fst).Nodup) (name : String) :
    (bindings.insertAll pairs).find? name = (pairs.lookup name).or (bindings.find? name) := by
  induction pairs generalizing bindings with
  | nil => rfl
  | cons pair rest induction =>
    rw [List.map_cons, List.nodup_cons] at distinct
    change ((bindings.insert pair.1 pair.2).insertAll rest).find? name = _
    rw [induction _ distinct.2, insert_find]
    by_cases same : name = pair.1
    · subst same
      simp [lookup_pair_cons, lookup_eq_none_of_not_mem _ _ distinct.1]
    · simp [lookup_pair_cons, same]

theorem merge_find (first second : Bindings Value) (name : String) :
    (first.merge second).find? name = (second.find? name).or (first.find? name) :=
  insert_all_find first second.pairs second.distinct name

/-- Overlaying keeps the names in their places and puts new ones behind them. -/
theorem insert_all_names (bindings : Bindings Value) (pairs : List (String × Value))
    (distinct : (pairs.map Prod.fst).Nodup) :
    (bindings.insertAll pairs).names =
      bindings.names ++ (pairs.map Prod.fst).filter fun name => !bindings.contains name := by
  induction pairs generalizing bindings with
  | nil => simp [insertAll]
  | cons pair rest induction =>
    rw [List.map_cons, List.nodup_cons] at distinct
    change ((bindings.insert pair.1 pair.2).insertAll rest).names = _
    rw [induction _ distinct.2]
    have others : ∀ name ∈ rest.map Prod.fst,
        (bindings.insert pair.1 pair.2).contains name = bindings.contains name := by
      intro name member
      have different : name ≠ pair.1 := fun equal => distinct.1 (equal ▸ member)
      rw [Bool.eq_iff_iff, contains_iff, contains_iff, insert_names]
      split <;> simp [different]
    rw [List.filter_congr fun name member => by rw [others name member], insert_names,
      List.map_cons, List.filter_cons]
    by_cases bound : pair.1 ∈ bindings.names
    · simp [bound, (contains_iff bindings pair.1).2 bound]
    · have free : bindings.contains pair.1 = false := by
        simpa using mt (contains_iff bindings pair.1).1 bound
      simp [bound, free]

theorem merge_names (first second : Bindings Value) :
    (first.merge second).names =
      first.names ++ second.names.filter fun name => !first.contains name :=
  insert_all_names first second.pairs second.distinct

/-- A list of pairs with distinct names is determined by its names and their values. -/
theorem pairs_eq_of_lookup_eq (first second : List (String × Value))
    (distinct : (first.map Prod.fst).Nodup)
    (sameNames : first.map Prod.fst = second.map Prod.fst)
    (sameValues : ∀ name, first.lookup name = second.lookup name) : first = second := by
  induction first generalizing second with
  | nil =>
    rw [List.map_nil] at sameNames
    exact (List.map_eq_nil_iff.1 sameNames.symm).symm
  | cons pair rest induction =>
    cases second with
    | nil => simp at sameNames
    | cons other others =>
      rcases pair with ⟨key, value⟩
      rcases other with ⟨otherKey, otherValue⟩
      rw [List.map_cons, List.map_cons, List.cons.injEq] at sameNames
      rcases sameNames with ⟨sameKey, sameRest⟩
      change key = otherKey at sameKey
      subst sameKey
      rw [List.map_cons, List.nodup_cons] at distinct
      have sameValue : value = otherValue := by
        have found := sameValues key
        simpa [lookup_pair_cons] using found
      have tails : rest = others := by
        refine induction others distinct.2 sameRest ?_
        intro name
        by_cases same : name = key
        · subst same
          rw [lookup_eq_none_of_not_mem _ _ distinct.1,
            lookup_eq_none_of_not_mem _ _ (sameRest ▸ distinct.1)]
        · have found := sameValues name
          simpa [lookup_pair_cons, same] using found
      rw [sameValue, tails]

/-- Bindings are determined by their names in order and the values of these. -/
theorem ext_find (first second : Bindings Value) (sameNames : first.names = second.names)
    (sameValues : ∀ name, first.find? name = second.find? name) : first = second :=
  ext first second
    (pairs_eq_of_lookup_eq first.pairs second.pairs first.distinct sameNames sameValues)

/-- A list of pairs with distinct names is kept as it is. -/
theorem of_list_pairs (pairs : List (String × Value)) (distinct : (pairs.map Prod.fst).Nodup) :
    (ofList pairs).pairs = pairs := by
  have nothing : (∅ : Bindings Value).names = [] := rfl
  apply pairs_eq_of_lookup_eq _ _ (ofList pairs).distinct
  · change (insertAll ∅ pairs).names = _
    rw [insert_all_names _ _ distinct]
    simp [contains, nothing]
  · intro name
    change (insertAll ∅ pairs).find? name = _
    rw [insert_all_find _ _ distinct]
    change (pairs.lookup name).or none = _
    rw [Option.or_none]

theorem find_of_mem (bindings : Bindings Value) (name : String) (value : Value)
    (bound : (name, value) ∈ bindings.pairs) : bindings.find? name = some value := by
  obtain ⟨before, after, split⟩ := List.append_of_mem bound
  have distinct := bindings.distinct
  rw [split, List.map_append, List.map_cons, List.nodup_append] at distinct
  apply List.lookup_eq_some_iff.2
  refine ⟨before, after, split, ?_⟩
  intro pair earlier
  have different := distinct.2.2 pair.1 (List.mem_map_of_mem earlier) name List.mem_cons_self
  simpa using different.symm

theorem find_eq_some_iff (bindings : Bindings Value) (name : String) (value : Value) :
    bindings.find? name = some value ↔ (name, value) ∈ bindings.pairs := by
  constructor
  · intro found
    obtain ⟨before, after, split, _⟩ := List.lookup_eq_some_iff.1 found
    rw [split]
    exact List.mem_append_right before List.mem_cons_self
  · exact find_of_mem bindings name value

theorem values_found (bindings : Bindings Value) :
    bindings.values.map some = bindings.names.map bindings.find? := by
  unfold values names
  rw [List.map_map, List.map_map]
  apply List.map_congr_left
  intro pair member
  exact (bindings.find_of_mem pair.1 pair.2 member).symm

/-- The values do not depend on the order of the bindings. -/
theorem find_eq_of_perm (first second : Bindings Value) (reordered : first.pairs.Perm second.pairs)
    (name : String) : first.find? name = second.find? name := by
  apply Option.ext
  intro value
  rw [find_eq_some_iff, find_eq_some_iff, reordered.mem_iff]

end Bindings

end PairLoop
