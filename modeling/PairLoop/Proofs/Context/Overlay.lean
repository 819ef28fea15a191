import PairLoop.Context.Basic

/-!
Contexts laid over each other. The upper one decides about the values and the lower one about the
places: its names stay where they are, and what only the upper one binds comes behind them. So
overlays can be bracketed in any way, a single binding is one of them, and a list of pairs is the
overlay of its bindings from left to right.
-/

namespace PairLoop

namespace Bindings

variable {Value : Type}

/-- The bindings of one name. -/
def single (name : String) (value : Value) : Bindings Value :=
  ⟨[(name, value)], List.pairwise_singleton _ name⟩

theorem contains_merge (first second : Bindings Value) (name : String) :
    (first.merge second).contains name = (first.contains name || second.contains name) := by
  rw [Bool.eq_iff_iff, Bool.or_eq_true, contains_iff, contains_iff, contains_iff, merge_names,
    List.mem_append, List.mem_filter, Bool.not_eq_true', ← Bool.not_eq_true, contains_iff]
  constructor
  · intro bound
    exact bound.imp_right And.left
  · intro bound
    by_cases old : name ∈ first.names
    · exact .inl old
    · exact .inr ⟨bound.resolve_left old, old⟩

/-- What the third binds is new to both others when it passes both their tests. -/
theorem merge_assoc (first second third : Bindings Value) :
    first.merge (second.merge third) = (first.merge second).merge third := by
  apply ext_find
  · have new : (fun name => !(first.merge second).contains name) =
        fun name => !first.contains name && !second.contains name := by
      funext name
      rw [contains_merge, Bool.not_or]
    rw [merge_names, merge_names, merge_names, merge_names, List.filter_append, List.filter_filter,
      new, List.append_assoc]
  · intro name
    rw [merge_find, merge_find, merge_find, merge_find, Option.or_assoc]

theorem empty_merge (bindings : Bindings Value) : (∅ : Bindings Value).merge bindings = bindings :=
  ext _ _ (of_list_pairs bindings.pairs bindings.distinct)

theorem of_list_eq_merges (pairs : List (String × Value)) :
    ofList pairs = (pairs.map fun pair => single pair.1 pair.2).foldl merge ∅ := by
  rw [List.foldl_map]
  rfl

/-- Bindings iterate as a list of pairs if this has their names in order, each with its value. -/
theorem pairs_eq_of_found (bindings : Bindings Value) (pairs : List (String × Value))
    (sameNames : bindings.names = pairs.map Prod.fst)
    (found : ∀ pair ∈ pairs, bindings.find? pair.1 = some pair.2) : bindings.pairs = pairs := by
  have distinct : (pairs.map Prod.fst).Nodup := sameNames ▸ bindings.distinct
  apply pairs_eq_of_lookup_eq _ _ bindings.distinct sameNames
  intro name
  by_cases member : name ∈ pairs.map Prod.fst
  · obtain ⟨pair, listed, rfl⟩ := List.mem_map.1 member
    have here : (⟨pairs, distinct⟩ : Bindings Value).find? pair.1 = some pair.2 :=
      find_of_mem _ _ _ listed
    exact (found pair listed).trans here.symm
  · have unbound : name ∉ bindings.pairs.map Prod.fst := by
      intro bound
      exact member (sameNames ▸ bound)
    rw [lookup_eq_none_of_not_mem name _ unbound, lookup_eq_none_of_not_mem name _ member]

theorem merge_pairs (first second : Bindings Value) :
    (first.merge second).pairs =
      (first.pairs.map fun pair => (pair.1, (second.find? pair.1).getD pair.2)) ++
        second.pairs.filter fun pair => !first.contains pair.1 := by
  apply pairs_eq_of_found
  · rw [merge_names, List.map_append, List.map_map, names, names, List.filter_map]
    rfl
  · intro pair member
    rw [merge_find]
    rcases List.mem_append.1 member with old | new
    · obtain ⟨lower, listed, rfl⟩ := List.mem_map.1 old
      rw [find_of_mem first lower.1 lower.2 listed]
      cases second.find? lower.1 with
      | none => rfl
      | some value => rfl
    · rw [find_of_mem second pair.1 pair.2 (List.mem_filter.1 new).1, Option.some_or]

end Bindings

namespace Context

/-- Laying contexts over each other is associative, and the empty context changes nothing on either
side. An overlay iterates as the lower context with the values of the upper one where it has some,
and then as the upper one with the names left out that the lower one binds; no name comes twice. To
bind a name is to lay the context of this one binding over, and a context of a list of pairs is
what comes of laying its bindings over each other from left to right. -/
theorem overlays_in_order (first second third : Context) :
    first.merge (second.merge third) = (first.merge second).merge third ∧
    first.merge ∅ = first ∧ (∅ : Context).merge first = first ∧
    (first.merge second).pairs =
      (first.pairs.map fun pair => (pair.1, (second.find? pair.1).getD pair.2)) ++
        second.pairs.filter (fun pair => !first.contains pair.1) ∧
    (first.merge second).names.Nodup ∧
    (∀ name value, first.insert name value = first.merge (.single name value)) ∧
    ∀ pairs : List (String × Value),
      (Bindings.ofList pairs : Context) =
        (pairs.map fun pair => Bindings.single pair.1 pair.2).foldl Bindings.merge ∅ :=
  ⟨Bindings.merge_assoc first second third, rfl, Bindings.empty_merge first,
    Bindings.merge_pairs first second, (first.merge second).distinct, fun _ _ => rfl,
    Bindings.of_list_eq_merges⟩

end Context

end PairLoop
