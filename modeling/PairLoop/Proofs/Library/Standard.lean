import PairLoop.Proofs.Library.Entries
import PairLoop.Proofs.Library.Evaluators
import PairLoop.Proofs.Library.SelfTest

/-!
The self test of the standard library. A quantity of a pair is there exactly if the values of the
particles from which it is computed can be read, and a quantity derived from such a one whenever
that one is, whatever values are given for the quantities themselves.
-/

namespace PairLoop

/-- The two elements of a quantity at a pair can be read, where an index that is not given is that of
the first particle, and an array that is not given has two elements. -/
def Context.Supplies (given : Context) (quantity : String) : Prop :=
  ((given.find? Name.destinationIndex).getD (.int 0)).Selects
      ((given.find? (Name.destinationMark ++ quantity)).getD .placeholder) ∧
    ((given.find? Name.sourceIndex).getD (.int 0)).Selects
      ((given.find? (Name.sourceMark ++ quantity)).getD .placeholder)

namespace Library

/-- The values that the block of a name is evaluated on. -/
def contextOf (library : Library) (given : Context) (outcomes : Outcomes) (name : String) :
    Context :=
  match library.find? name with
  | some block => block.defaults.merge (given.insertAll (upstream outcomes name block.symbols))
  | none => ∅

/-- The names from which a quantity is read at a pair are used by the entry, and none of them is the
name of a block. -/
def Entry.Takes (entry : Entry) (entries : List Entry) (quantity : String) : Prop :=
  (∀ used ∈ [Name.destinationIndex, Name.sourceIndex, Name.destinationMark ++ quantity,
      Name.sourceMark ++ quantity], used ∈ entry.symbols ∧ used ∉ entries.map Entry.name) ∧
    Name.isDestinationArray (Name.destinationMark ++ quantity) = true ∧
    Name.isSourceArray (Name.sourceMark ++ quantity) = true

instance (entry : Entry) (entries : List Entry) (quantity : String) :
    Decidable (entry.Takes entries quantity) :=
  inferInstanceAs (Decidable (_ ∧ _))

/-- The entry uses the quantity of another block. -/
def Entry.Derives (entry : Entry) (source : String) : Prop :=
  source ∈ entry.symbols ∧ source ≠ entry.name ∧ Name.isIndex source = false ∧
    ¬ (Name.isSourceArray source = true ∨ Name.isDestinationArray source = true)

instance (entry : Entry) (source : String) : Decidable (entry.Derives source) :=
  inferInstanceAs (Decidable (_ ∧ _))

section Described

variable {library : Library} {entries : List Entry} {given : Context} {outcomes : Outcomes}
  (described : library.DescribedBy entries) (recursive : library.IsRecursive given outcomes)
  (entry : Entry) (listed : entry ∈ entries)

include described listed

/-- A block sees what comes from upstream, else what is given, and else its own values. -/
theorem find_context_of (used : String) :
    (library.contextOf given outcomes entry.name).find? used =
      ((if used ∈ entry.symbols ∧ used ≠ entry.name then ownValue? outcomes used else none).or
        (given.find? used)).or (entry.defaults.find? used) := by
  obtain ⟨block, found, described⟩ := described.found entry listed
  simp only [contextOf, found]
  rw [Bindings.merge_find, find_with_upstream, described.defaults, described.symbols]
  simp only [NameSet.mem_erase, NameSet.mem_of_list]

/-- A block sees a value of some kind for another block's quantity if that one's evaluation gives
such values and succeeds, or if such a value is given. -/
theorem exists_derived_iff {Input : Type} (source : String) (derives : entry.Derives source)
    (context : Context) (input : Except EvalError Input) (value : Input → Value)
    (evaluated : outcomes source = some (computed context source input value))
    (kind : Value → Prop) (each : ∀ result, kind (value result)) :
    (∃ found, (library.contextOf given outcomes entry.name).find? source = some found ∧
        kind found) ↔
      (computed context source input value).isOk = true ∨
        ∃ found, given.find? source = some found ∧ kind found := by
  obtain ⟨uses, different, other, unmarked⟩ := derives
  rw [find_context_of described entry listed, if_pos ⟨uses, different⟩, own_value_eq, evaluated,
    Option.bind_some, value_of_computed, computed_is_ok,
    entry.find_default_of_other source different uses other unmarked, Option.or_none]
  cases input with
  | error error => simp [Except.toOption, is_ok_error]
  | ok result => simp [Except.toOption, is_ok_ok, each]

include recursive

theorem outcome_of_entry :
    outcomes entry.name =
      entry.evaluator.map fun evaluator =>
        evaluator (library.contextOf given outcomes entry.name) := by
  obtain ⟨block, found, described⟩ := described.found entry listed
  rw [recursive entry.name]
  simp only [outcomeFrom, contextOf, found, CodeBlock.isEvaluable, CodeBlock.evaluate,
    described.evaluator]
  cases entry.evaluator with
  | none => rfl
  | some evaluator => rfl

/-- An input that no block computes has its given value, or else the block's own. -/
theorem find_given (used : String) (unlisted : used ∉ entries.map Entry.name) (value : Value)
    (own : entry.defaults.find? used = some value) :
    (library.contextOf given outcomes entry.name).find? used =
      some ((given.find? used).getD value) := by
  have unevaluated : outcomes used = none := by
    apply outcome_eq_none_of_not_mem outcomes recursive
    rw [described.names]
    exact unlisted
  rw [find_context_of described entry listed, own_value_eq_none outcomes used unevaluated, ite_self,
    Option.none_or, own]
  cases given.find? used with
  | none => rfl
  | some found => rfl

theorem has_element_iff (name indexName : String)
    (uses : name ∈ entry.symbols ∧ name ∉ entries.map Entry.name)
    (usesIndex : indexName ∈ entry.symbols ∧ indexName ∉ entries.map Entry.name)
    (array : Name.isSourceArray name = true ∨ Name.isDestinationArray name = true)
    (index : Name.isIndex indexName = true) :
    (library.contextOf given outcomes entry.name).HasElement name indexName ↔
      ((given.find? indexName).getD (.int 0)).Selects ((given.find? name).getD .placeholder) := by
  have different : ∀ used, used ∉ entries.map Entry.name → used ≠ entry.name := by
    intro used unlisted same
    exact unlisted (same ▸ List.mem_map_of_mem listed)
  have found := find_given described recursive entry listed name uses.2 .placeholder
    (entry.find_default_of_array name (different name uses.2) uses.1 array)
  have foundIndex := find_given described recursive entry listed indexName usesIndex.2 (.int 0)
    (entry.find_default_of_index indexName (different indexName usesIndex.2) usesIndex.1 index)
  rw [Context.HasElement, found, foundIndex]
  simp

theorem has_pair_iff_supplies (quantity : String) (takes : entry.Takes entries quantity) :
    HasPair (library.contextOf given outcomes entry.name) quantity ↔ given.Supplies quantity := by
  obtain ⟨inputs, destination, source⟩ := takes
  simp only [List.forall_mem_cons] at inputs
  obtain ⟨usesDestinationIndex, usesSourceIndex, usesDestination, usesSource, _⟩ := inputs
  apply and_congr
  · exact has_element_iff described recursive entry listed _ _ usesDestination
      usesDestinationIndex (.inr destination) (by decide)
  · exact has_element_iff described recursive entry listed _ _ usesSource usesSourceIndex
      (.inl source) (by decide)

theorem has_pairs_iff_supplies (quantities : List String)
    (takes : ∀ quantity ∈ quantities, entry.Takes entries quantity) :
    (∀ quantity ∈ quantities, HasPair (library.contextOf given outcomes entry.name) quantity) ↔
      ∀ quantity ∈ quantities, given.Supplies quantity := by
  apply forall₂_congr
  intro quantity member
  exact has_pair_iff_supplies described recursive entry listed quantity (takes quantity member)

end Described

theorem answers_of_described {library : Library} {entries : List Entry} {given : Context}
    {outcomes : Outcomes} (described : library.DescribedBy entries)
    (recursive : library.IsRecursive given outcomes) :
    library.answers outcomes = entries.filterMap fun entry =>
      entry.evaluator.map fun evaluator =>
        (entry.name, evaluator (library.contextOf given outcomes entry.name)) := by
  rw [answers, tabulate, described.names, List.filterMap_map]
  apply List.filterMap_congr
  intro entry listed
  rw [Function.comp_apply, outcome_of_entry described recursive entry listed, Option.map_map]
  rfl

/-- The self test of the standard library answers for seven quantities, whatever is given. Those of a
pair succeed exactly if the two elements of each of their quantities can be read, and the derived
ones exactly if the one before succeeds or a value of its kind is given instead. -/
theorem self_test_of_standard :
    ∃ library, standard = .ok library ∧ ∀ given : Context,
      ∃ hij rhoij rhoij1 xij vij r2ij rij,
        library.selfTest given =
          .ok [("HIJ", hij), ("RHOIJ", rhoij), ("RHOIJ1", rhoij1), ("XIJ", xij), ("VIJ", vij),
            ("R2IJ", r2ij), ("RIJ", rij)] ∧
        (hij.isOk = true ↔ given.Supplies "h") ∧
        (rhoij.isOk = true ↔ given.Supplies "rho") ∧
        (xij.isOk = true ↔ ∀ quantity ∈ ["x", "y", "z"], given.Supplies quantity) ∧
        (vij.isOk = true ↔ ∀ quantity ∈ ["u", "v", "w"], given.Supplies quantity) ∧
        (rhoij1.isOk = true ↔ rhoij.isOk = true ∨
          ∃ found, given.find? "RHOIJ" = some found ∧ found.IsNumber) ∧
        (r2ij.isOk = true ↔ xij.isOk = true ∨
          ∃ found, given.find? "XIJ" = some found ∧ found.IsVector) ∧
        (rij.isOk = true ↔ r2ij.isOk = true ∨
          ∃ found, given.find? "R2IJ" = some found ∧ found.IsNumber) := by
  obtain ⟨library, built, described⟩ := exists_standard
  refine ⟨library, built, ?_⟩
  intro given
  have acyclic := acyclic_of_described described (by decide)
  obtain ⟨outcomes, recursive⟩ := exists_recursive acyclic given
  have tested := self_test_of_acyclic acyclic outcomes recursive
  rw [answers_of_described described recursive] at tested
  have evaluated := outcome_of_entry described recursive
  have onePair := has_pair_iff_supplies described recursive
  have pairs := has_pairs_iff_supplies described recursive
  refine ⟨_, _, _, _, _, _, _, tested, ?_, ?_, ?_, ?_, ?_, ?_, ?_⟩
  · rw [mean_is_ok_iff]
    exact onePair standardEntries[0] (List.getElem_mem _) "h" (by decide)
  · rw [mean_is_ok_iff]
    exact onePair standardEntries[1] (List.getElem_mem _) "rho" (by decide)
  · rw [difference_is_ok_iff]
    exact pairs standardEntries[3] (List.getElem_mem _) ["x", "y", "z"] (by decide)
  · rw [difference_is_ok_iff]
    exact pairs standardEntries[4] (List.getElem_mem _) ["u", "v", "w"] (by decide)
  · rw [reciprocal_is_ok_iff]
    exact exists_derived_iff described standardEntries[2] (List.getElem_mem _) "RHOIJ" (by decide)
      _ _ _ (evaluated standardEntries[1] (List.getElem_mem _)) Value.IsNumber fun _ => .inl rfl
  · rw [sum_of_squares_is_ok_iff]
    exact exists_derived_iff described standardEntries[5] (List.getElem_mem _) "XIJ" (by decide)
      _ _ _ (evaluated standardEntries[3] (List.getElem_mem _)) Value.IsVector fun _ => rfl
  · rw [square_root_is_ok_iff]
    exact exists_derived_iff described standardEntries[6] (List.getElem_mem _) "R2IJ" (by decide)
      _ _ _ (evaluated standardEntries[5] (List.getElem_mem _)) Value.IsNumber fun _ => .inl rfl

end Library

end PairLoop
