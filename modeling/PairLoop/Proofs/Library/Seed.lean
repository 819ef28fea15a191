import PairLoop.Proofs.Library.Block
import PairLoop.Proofs.Library.Evaluators

/-!
What a new block is tried on. The values that are given come first and stay as they are, and behind
them stand the indices and the arrays of either side that the fragment uses and nobody has bound. So
an element of one of its arrays can be looked up on any values that are laid over these, though
what is found there need not fit.
-/

namespace PairLoop

namespace Bindings

variable {Value : Type}

theorem assign_of_unbound (name : String) (value : Value) (pairs : List (String × Value))
    (unbound : name ∉ pairs.map Prod.fst) : assign name value pairs = pairs ++ [(name, value)] := by
  induction pairs with
  | nil => rfl
  | cons pair rest induction =>
    rw [List.map_cons, List.mem_cons, not_or] at unbound
    rw [assign, if_neg (Ne.symm unbound.1), induction unbound.2, List.cons_append]

/-- The names of a list that are not bound, each bound to one value. -/
def missing (bindings : Bindings Value) (names : List String) (value : Value) :
    List (String × Value) :=
  (names.filter fun name => !bindings.contains name).map fun name => (name, value)

theorem missing_append (bindings : Bindings Value) (first second : List String) (value : Value) :
    bindings.missing (first ++ second) value =
      bindings.missing first value ++ bindings.missing second value := by
  simp [missing]

theorem missing_cons_of_bound (bindings : Bindings Value) (name : String) (rest : List String)
    (value : Value) (bound : bindings.contains name = true) :
    bindings.missing (name :: rest) value = bindings.missing rest value := by
  simp [missing, bound]

theorem missing_cons_of_unbound (bindings : Bindings Value) (name : String) (rest : List String)
    (value : Value) (unbound : ¬ bindings.contains name = true) :
    bindings.missing (name :: rest) value = (name, value) :: bindings.missing rest value := by
  simp [missing, unbound]

/-- Names stay missing while others are bound. -/
theorem missing_congr (first second : Bindings Value) (names : List String) (value : Value)
    (same : ∀ name ∈ names, first.find? name = second.find? name) :
    first.missing names value = second.missing names value := by
  have agree : ∀ name ∈ names, (!first.contains name) = (!second.contains name) := by
    intro name member
    apply congrArg Bool.not
    rw [Bool.eq_iff_iff, contains_iff, contains_iff, ← find_is_some, ← find_is_some,
      same name member]
  unfold missing
  rw [List.filter_congr agree]

/-- To supply names is to append those that are missing. -/
theorem supply_all_pairs (bindings : Bindings Value) (names : List String) (value : Value)
    (distinct : names.Nodup) :
    (names.foldl (fun bound name => bound.supply name value) bindings).pairs =
      bindings.pairs ++ bindings.missing names value := by
  induction names generalizing bindings with
  | nil => exact (List.append_nil _).symm
  | cons name rest induction =>
    rw [List.nodup_cons] at distinct
    rw [List.foldl_cons, induction _ distinct.2]
    unfold supply
    by_cases bound : bindings.contains name = true
    · rw [if_pos bound, missing_cons_of_bound bindings name rest value bound]
    · have appended : (bindings.insert name value).pairs = bindings.pairs ++ [(name, value)] :=
        assign_of_unbound name value bindings.pairs (mt (contains_iff bindings name).2 bound)
      have others : (bindings.insert name value).missing rest value =
          bindings.missing rest value := by
        apply missing_congr
        intro other member
        have different : other ≠ name := by
          rintro rfl
          exact distinct.1 member
        rw [insert_find, if_neg different]
      rw [if_neg bound, appended, others, missing_cons_of_unbound bindings name rest value bound,
        List.append_assoc, List.singleton_append]

theorem mem_merge_names (first second : Bindings Value) (name : String)
    (bound : name ∈ first.names) : name ∈ (first.merge second).names := by
  rw [merge_names]
  exact List.mem_append_left _ bound

end Bindings

namespace Name

theorem not_mem_both_arrays (names : NameSet) (name : String) (source : name ∈ sourceArrays names) :
    name ∉ destinationArrays names := by
  intro destination
  rw [mem_source_arrays, isSourceArray, Bool.and_eq_true] at source
  rw [mem_destination_arrays, isDestinationArray, Bool.and_eq_true] at destination
  rw [not_source_of_destination name destination.2.1] at source
  exact Bool.noConfusion source.2.1

/-- A name that is spelled for a side is an array of that side or an index. -/
theorem mem_side_iff (names : NameSet) (name : String) :
    (name ∈ names ∧ (isSource name = true ∨ isDestination name = true)) ↔
      name ∈ sourceArrays names ∨ name ∈ destinationArrays names ∨
        (name ∈ names ∧ isIndex name = true) := by
  have sides : (isSource name = true ∨ isDestination name = true) ↔
      isSourceArray name = true ∨ isDestinationArray name = true ∨ isIndex name = true := by
    by_cases source : name = sourceIndex
    · rw [source]
      decide
    · by_cases destination : name = destinationIndex
      · rw [destination]
        decide
      · simp [isSourceArray, isDestinationArray, isIndex, source, destination]
  rw [mem_source_arrays, mem_destination_arrays, ← and_or_left, ← and_or_left, sides]

end Name

namespace CodeBlock

theorem indices_nodup (symbols : NameSet) : (indices symbols).Nodup :=
  List.Pairwise.filter _ (by decide)

theorem arrays_nodup (symbols : NameSet) : (arrays symbols).Nodup := by
  refine List.nodup_append.2 ⟨?_, ?_, ?_⟩
  · exact (Name.sourceArrays symbols).ascending.imp fun less => Std.ne_of_lt less
  · exact (Name.destinationArrays symbols).ascending.imp fun less => Std.ne_of_lt less
  · intro first source second destination same
    exact Name.not_mem_both_arrays symbols first source (same ▸ destination)

theorem seed_pairs (given : Context) (symbols : NameSet) :
    (seed given symbols).pairs =
      given.pairs ++ given.missing (indices symbols) (.int 0) ++
        given.missing (arrays symbols) .placeholder := by
  -- No array is an index, so the indices leave the same arrays missing.
  have arraysMissing : ((indices symbols).foldl (fun bound name => bound.supply name (.int 0))
      given).missing (arrays symbols) .placeholder =
        given.missing (arrays symbols) .placeholder := by
    apply Bindings.missing_congr
    intro name member
    have other : name ∉ indices symbols := by
      rw [mem_indices_iff, Name.not_index_of_array name ((mem_arrays_iff ..).1 member).1]
      simp
    rw [Bindings.find_supply_all, if_neg other, Option.or_none]
  rw [seed_eq, Bindings.supply_all_pairs _ _ _ (arrays_nodup symbols), arraysMissing,
    Bindings.supply_all_pairs _ _ _ (indices_nodup symbols)]

/-- A name that is bound already stays where it is, whatever its value. -/
example :
    (seed (Bindings.ofList [("s_x", .int 7), ("d_idx", .array [])])
      (.ofList ["RIJ", "d_idx", "d_m", "s_a", "s_idx", "s_x"])).names =
        ["s_x", "d_idx", "s_idx", "s_a", "d_m"] := by
  decide +kernel

theorem mem_seed_names (given : Context) (symbols : NameSet) (symbol : String)
    (used : symbol ∈ Name.sourceArrays symbols ∨ symbol ∈ Name.destinationArrays symbols ∨
      (symbol ∈ symbols ∧ Name.isIndex symbol = true)) :
    symbol ∈ (seed given symbols).names := by
  rw [Name.mem_source_arrays, Name.mem_destination_arrays] at used
  rw [← Bindings.find_is_some, find_seed]
  rcases used with ⟨member, source⟩ | ⟨member, destination⟩ | ⟨member, index⟩
  · simp [member, source]
  · simp [member, destination]
  · simp [member, index]

/-- A block is refused exactly if its extractor refuses the fragment, and with the same error. Else
it starts from the given values as they are, then the indices that are missing, then the arrays
that are missing, those of the sources first. The arrays and the indices are the symbols that are
spelled for a side, and no array is of both. Whatever is laid over these values, in what the
evaluator is given no element of an array at an index is missing. -/
theorem build_seeded (extract : Extractor) (name code : String) (given : Context) :
    match extract (Fragment.dedent code) with
    | .error error => build extract name code given = .error error
    | .ok symbols => ∃ block, build extract name code given = .ok block ∧
      block.name = name ∧ block.code = Fragment.dedent code ∧ block.symbols = symbols ∧
      block.defaults.pairs =
        given.pairs ++ given.missing (indices symbols) (.int 0) ++
          given.missing block.sourceArrays.toList .placeholder ++
          given.missing block.destinationArrays.toList .placeholder ∧
      block.sourceArrays.toList.Pairwise (· < ·) ∧
      block.destinationArrays.toList.Pairwise (· < ·) ∧
      block.defaults.names.Nodup ∧
      (∀ symbol ∈ block.sourceArrays, symbol ∉ block.destinationArrays) ∧
      (∀ symbol, (symbol ∈ block.symbols ∧
          (Name.isSource symbol = true ∨ Name.isDestination symbol = true)) ↔
        symbol ∈ block.sourceArrays ∨ symbol ∈ block.destinationArrays ∨
          (symbol ∈ block.symbols ∧ Name.isIndex symbol = true)) ∧
      ∀ evaluator extra, ∃ context : Context, context = block.defaults.merge extra ∧
        (block.withEvaluator evaluator).evaluate extra = evaluator context ∧
        ∀ array index absent,
          array ∈ block.sourceArrays ∨ array ∈ block.destinationArrays →
          index ∈ block.symbols ∧ Name.isIndex index = true →
            context.element array index ≠ .error (.missingBinding absent) := by
  cases extracted : extract (Fragment.dedent code) with
  | error error =>
    dsimp only
    rw [build, extracted]
  | ok symbols =>
    refine ⟨_, build_eq extract name code given symbols extracted, rfl, rfl, rfl, ?_, ?_, ?_, ?_,
      ?_, ?_, ?_⟩
    · change (seed given symbols).pairs = _
      rw [seed_pairs, arrays, Bindings.missing_append, ← List.append_assoc]
      rfl
    · exact (Name.sourceArrays symbols).ascending
    · exact (Name.destinationArrays symbols).ascending
    · exact (seed given symbols).distinct
    · exact Name.not_mem_both_arrays symbols
    · exact Name.mem_side_iff symbols
    · intro evaluator extra
      refine ⟨_, rfl, rfl, ?_⟩
      intro array index absent arrayUsed indexUsed
      apply Context.element_ne_missing
      · apply Bindings.mem_merge_names
        exact mem_seed_names given symbols array (arrayUsed.imp_right .inl)
      · apply Bindings.mem_merge_names
        exact mem_seed_names given symbols index (.inr (.inr indexUsed))

end CodeBlock

end PairLoop
