import PairLoop.Proofs.Fragment.Outdented

/-!
What a block knows of its own. The names of its fragment are those of the code as it is written, and
the indices and arrays among them have values even if nothing is given.
-/

namespace PairLoop

theorem Bindings.find_supply_all {Value : Type} (bindings : Bindings Value) (names : List String)
    (value : Value) (name : String) :
    (names.foldl (fun bound other => bound.supply other value) bindings).find? name =
      (bindings.find? name).or (if name ∈ names then some value else none) := by
  induction names generalizing bindings with
  | nil => simp
  | cons other rest induction =>
    rw [List.foldl_cons, induction, supply_find]
    by_cases same : name = other
    · subst same
      cases found : bindings.find? name with
      | none =>
        have unbound : name ∉ bindings.names := by
          rw [← find_is_some, found]
          exact Bool.false_ne_true
        simp [unbound]
      | some old =>
        have bound : name ∈ bindings.names := by
          rw [← find_is_some, found]
          rfl
        simp [bound]
    · simp [same]

namespace CodeBlock

theorem build_eq (extract : Extractor) (name code : String) (given : Context) (symbols : NameSet)
    (extracted : extract (Fragment.dedent code) = .ok symbols) :
    build extract name code given =
      .ok ⟨name, Fragment.dedent code, symbols, seed given symbols, none⟩ := by
  rw [build, extracted]

theorem of_fragment_eq (name code : String) (given : Context) (symbols : NameSet)
    (scanned : Fragment.symbols code = .ok symbols) :
    ofFragment name code given =
      .ok ⟨name, Fragment.dedent code, symbols, seed given symbols, none⟩ :=
  build_eq Fragment.symbols name code given symbols ((Fragment.symbols_dedent code).trans scanned)

/-- The indices among the names of a fragment. -/
def indices (symbols : NameSet) : List String :=
  [Name.sourceIndex, Name.destinationIndex].filter fun name => decide (name ∈ symbols)

/-- The arrays among the names of a fragment, those of the sources first. -/
def arrays (symbols : NameSet) : List String :=
  (Name.sourceArrays symbols).toList ++ (Name.destinationArrays symbols).toList

theorem mem_indices_iff (symbols : NameSet) (name : String) :
    name ∈ indices symbols ↔ Name.isIndex name = true ∧ name ∈ symbols := by
  simp [indices, Name.isIndex]

theorem mem_arrays_iff (symbols : NameSet) (name : String) :
    name ∈ arrays symbols ↔
      (Name.isSourceArray name = true ∨ Name.isDestinationArray name = true) ∧ name ∈ symbols := by
  unfold arrays
  rw [List.mem_append, NameSet.mem_to_list, NameSet.mem_to_list, Name.mem_source_arrays,
    Name.mem_destination_arrays]
  tauto

theorem seed_eq (given : Context) (symbols : NameSet) :
    seed given symbols =
      (arrays symbols).foldl (fun bound name => bound.supply name .placeholder)
        ((indices symbols).foldl (fun bound name => bound.supply name (.int 0)) given) := rfl

theorem find_seed (given : Context) (symbols : NameSet) (name : String) :
    (seed given symbols).find? name =
      ((given.find? name).or
        (if Name.isIndex name = true ∧ name ∈ symbols then some (.int 0) else none)).or
        (if (Name.isSourceArray name = true ∨ Name.isDestinationArray name = true) ∧ name ∈ symbols
          then some .placeholder else none) := by
  rw [seed_eq, Bindings.find_supply_all, Bindings.find_supply_all]
  simp only [mem_indices_iff, mem_arrays_iff]

end CodeBlock

end PairLoop
