import PairLoop.Proofs.Library.Entries
import PairLoop.Proofs.Library.Evaluators

/-!
What the evaluators of the standard library read and write. Each evaluator looks up names that its
fragment uses and no others, and binds the quantity of its block and nothing else. So contexts that
bind those names alike lead to the same value or to the same error.
-/

namespace PairLoop

namespace Context

/-- Contexts bind each of the names to the same value, or both of them do not bind it. -/
def AgreeOn (names : NameSet) (first second : Context) : Prop :=
  ∀ name ∈ names, first.find? name = second.find? name

section Readings

variable (first second : Context) (name indexName : String)

theorem lookup_congr (same : first.find? name = second.find? name) :
    first.lookup name = second.lookup name := by
  rw [lookup, lookup, same]

theorem index_congr (same : first.find? name = second.find? name) :
    first.index name = second.index name := by
  rw [index, index, lookup_congr first second name same]

theorem real_congr (same : first.find? name = second.find? name) :
    first.real name = second.real name := by
  rw [real, real, lookup_congr first second name same]

theorem vector_congr (same : first.find? name = second.find? name) :
    first.vector name = second.vector name := by
  rw [vector, vector, lookup_congr first second name same]

theorem element_congr (same : first.find? name = second.find? name)
    (sameIndex : first.find? indexName = second.find? indexName) :
    first.element name indexName = second.element name indexName := by
  rw [element, element, index_congr first second indexName sameIndex,
    lookup_congr first second name same]

end Readings

/-- Overlaying one context with others that agree on some names makes contexts that do so. -/
theorem agree_on_merge (names : NameSet) (own first second : Context)
    (agree : AgreeOn names first second) : AgreeOn names (own.merge first) (own.merge second) := by
  intro name member
  rw [Bindings.merge_find, Bindings.merge_find, agree name member]

end Context

open Context

/-- An evaluator that depends on the given names only and binds its target and nothing else. -/
def Evaluator.Confined (evaluator : Evaluator) (target : String) (names : NameSet) : Prop :=
  ∀ first second, AgreeOn names first second →
    (∃ error, evaluator first = .error error ∧ evaluator second = .error error) ∨
      ∃ value, evaluator first = .ok (first.insert target value) ∧
        evaluator second = .ok (second.insert target value)

namespace Library

variable (target name quantity : String) (names : NameSet)

/-- What is computed from an input that depends on some names only is confined to them. -/
theorem confined_of_computed {Input : Type} (input : Context → Except EvalError Input)
    (value : Input → Value)
    (same : ∀ first second, AgreeOn names first second → input first = input second) :
    Evaluator.Confined (fun context => computed context target (input context) value) target
      names := by
  intro first second agree
  dsimp only
  rw [same first second agree]
  cases input second with
  | error error => exact .inl ⟨error, rfl, rfl⟩
  | ok result => exact .inr ⟨value result, rfl, rfl⟩

/-- The names under which the two elements of a quantity are looked up. -/
def pairNames : List String :=
  [Name.destinationIndex, Name.destinationMark ++ quantity, Name.sourceIndex,
    Name.sourceMark ++ quantity]

theorem pair_elements_congr (reads : ∀ used ∈ pairNames quantity, used ∈ names)
    (first second : Context) (agree : AgreeOn names first second) :
    pairElements first quantity = pairElements second quantity := by
  have same : ∀ used ∈ pairNames quantity, first.find? used = second.find? used :=
    fun used member => agree used (reads used member)
  simp only [pairNames, List.forall_mem_cons] at same
  obtain ⟨destinationIndex, destination, sourceIndex, source, _⟩ := same
  rw [pairElements, pairElements, element_congr _ _ _ _ destination destinationIndex,
    element_congr _ _ _ _ source sourceIndex]

theorem differences_congr (quantities : List String)
    (reads : ∀ quantity ∈ quantities, ∀ used ∈ pairNames quantity, used ∈ names)
    (first second : Context) (agree : AgreeOn names first second) :
    differences first quantities = differences second quantities := by
  induction quantities with
  | nil => rfl
  | cons quantity rest induction =>
    rw [List.forall_mem_cons] at reads
    have here := pair_elements_congr quantity names reads.1 first second agree
    have later := induction reads.2
    unfold differences at later ⊢
    rw [List.mapM_cons, List.mapM_cons, here, later]

theorem mean_confined (reads : ∀ used ∈ pairNames quantity, used ∈ names) :
    (mean target quantity).Confined target names :=
  confined_of_computed target names _ _ (pair_elements_congr quantity names reads)

theorem difference_confined (quantities : List String)
    (reads : ∀ quantity ∈ quantities, ∀ used ∈ pairNames quantity, used ∈ names) :
    (difference target quantities).Confined target names :=
  confined_of_computed target names _ _ (differences_congr names quantities reads)

theorem reciprocal_confined (reads : name ∈ names) :
    (reciprocal target name).Confined target names :=
  confined_of_computed target names _ _ fun first second agree =>
    real_congr first second name (agree name reads)

theorem square_root_confined (reads : name ∈ names) :
    (squareRoot target name).Confined target names :=
  confined_of_computed target names _ _ fun first second agree =>
    real_congr first second name (agree name reads)

theorem sum_of_squares_confined (reads : name ∈ names) :
    (sumOfSquares target name).Confined target names :=
  confined_of_computed target names _ _ fun first second agree =>
    vector_congr first second name (agree name reads)

namespace Entry

/-- The evaluator of an entry, if it has one, is confined to the names that the entry uses. -/
def IsConfined (entry : Entry) : Prop :=
  ∀ evaluator ∈ entry.evaluator, evaluator.Confined entry.name (.ofList entry.symbols)

variable {symbols : List String} {initial : Value}

theorem is_confined_of_evaluator (evaluator : Evaluator)
    (confined : evaluator.Confined name (.ofList symbols)) :
    IsConfined ⟨name, symbols, initial, some evaluator⟩ := by
  intro other same
  rw [← Option.some.inj same]
  exact confined

theorem is_confined_of_none : IsConfined ⟨name, symbols, initial, none⟩ := by
  intro evaluator impossible
  cases impossible

end Entry

theorem standard_entries_confined : ∀ entry ∈ standardEntries, entry.IsConfined := by
  simp only [standardEntries, List.forall_mem_cons]
  refine ⟨?hij, ?rhoij, ?rhoij1, ?xij, ?vij, ?r2ij, ?rij, ?_⟩
  case hij => exact Entry.is_confined_of_evaluator _ _ (mean_confined _ _ _ (by decide))
  case rhoij => exact Entry.is_confined_of_evaluator _ _ (mean_confined _ _ _ (by decide))
  case rhoij1 => exact Entry.is_confined_of_evaluator _ _ (reciprocal_confined _ _ _ (by decide))
  case xij => exact Entry.is_confined_of_evaluator _ _ (difference_confined _ _ _ (by decide))
  case vij => exact Entry.is_confined_of_evaluator _ _ (difference_confined _ _ _ (by decide))
  case r2ij =>
    exact Entry.is_confined_of_evaluator _ _ (sum_of_squares_confined _ _ _ (by decide))
  case rij => exact Entry.is_confined_of_evaluator _ _ (square_root_confined _ _ _ (by decide))
  -- The blocks of the kernel have no evaluator.
  exact ⟨Entry.is_confined_of_none _, Entry.is_confined_of_none _, Entry.is_confined_of_none _,
    Entry.is_confined_of_none _, Entry.is_confined_of_none _, Entry.is_confined_of_none _,
    fun _ none => absurd none List.not_mem_nil⟩

end Library

namespace CodeBlock

variable (block : CodeBlock) (evaluator : Evaluator) (evaluable : block.evaluator = some evaluator)
  (confined : evaluator.Confined block.name block.symbols)

include evaluable confined

/-- An evaluation comes to the same for all that agrees on the names of the block. -/
theorem evaluate_of_agree (first second : Context) (agree : AgreeOn block.symbols first second) :
    (∃ error, block.evaluate first = .error error ∧ block.evaluate second = .error error) ∨
      ∃ value, block.evaluate first =
          .ok ((block.defaults.merge first).insert block.name value) ∧
        block.evaluate second = .ok ((block.defaults.merge second).insert block.name value) := by
  unfold evaluate
  rw [evaluable]
  exact confined _ _ (agree_on_merge block.symbols block.defaults first second agree)

theorem exists_insert_of_evaluate (extra result : Context)
    (evaluated : block.evaluate extra = .ok result) :
    ∃ value, result = (block.defaults.merge extra).insert block.name value := by
  rcases block.evaluate_of_agree evaluator evaluable confined extra extra (fun _ _ => rfl) with
    ⟨error, failed, _⟩ | ⟨value, succeeded, _⟩
  · rw [failed] at evaluated
    cases evaluated
  · rw [succeeded] at evaluated
    exact ⟨value, (Except.ok.inj evaluated).symm⟩

end CodeBlock

namespace Library

theorem exists_entry_of_find {library : Library} {entries : List Entry}
    (described : library.DescribedBy entries) (name : String) (block : CodeBlock)
    (found : library.find? name = some block) :
    ∃ entry ∈ entries, entry.name = name ∧ entry.Describes block := by
  have listed : name ∈ library.names := by
    rw [← Bindings.find_is_some, found]
    rfl
  rw [described.names] at listed
  obtain ⟨entry, member, rfl⟩ := List.mem_map.1 listed
  obtain ⟨other, otherFound, otherDescribed⟩ := described.found entry member
  rw [found] at otherFound
  cases otherFound
  exact ⟨entry, member, rfl, otherDescribed⟩

/-- Evaluating a block of the standard library on values that agree on the names of its fragment
either fails with the same error or gives its quantity the same value. Where it succeeds, it leaves
every other name with the binding that it had, and it takes no binding away. -/
theorem evaluation_confined :
    ∃ library, standard = .ok library ∧ ∀ name block, library.find? name = some block →
      block.isEvaluable = true →
        block.name = name ∧
        (∀ first second, AgreeOn block.symbols first second →
          (∃ error, block.evaluate first = .error error ∧
            block.evaluate second = .error error) ∨
          ∃ one other value, block.evaluate first = .ok one ∧ block.evaluate second = .ok other ∧
            one.find? name = some value ∧ other.find? name = some value) ∧
        ∀ extra result, block.evaluate extra = .ok result →
          (∀ other, other ≠ name →
            result.find? other = (block.defaults.merge extra).find? other) ∧
          ∀ bound ∈ (block.defaults.merge extra).names, bound ∈ result.names := by
  obtain ⟨library, built, described⟩ := exists_standard
  refine ⟨library, built, ?_⟩
  intro name block found evaluable
  obtain ⟨entry, listed, rfl, describes⟩ := exists_entry_of_find described name block found
  obtain ⟨evaluator, has⟩ := Option.isSome_iff_exists.1 evaluable
  have confined : evaluator.Confined block.name block.symbols := by
    rw [describes.name, describes.symbols]
    exact standard_entries_confined entry listed evaluator (describes.evaluator ▸ has)
  refine ⟨describes.name, ?_, ?_⟩
  · intro first second agree
    rcases block.evaluate_of_agree evaluator has confined first second agree with
      failed | ⟨value, one, other⟩
    · exact .inl failed
    · refine .inr ⟨_, _, value, one, other, ?_, ?_⟩
      · rw [Bindings.insert_find, if_pos describes.name.symm]
      · rw [Bindings.insert_find, if_pos describes.name.symm]
  · intro extra result evaluated
    obtain ⟨value, rfl⟩ := block.exists_insert_of_evaluate evaluator has confined extra result
      evaluated
    constructor
    · intro other different
      rw [Bindings.insert_find, if_neg (describes.name ▸ different)]
    · intro bound member
      rw [Bindings.insert_names]
      split
      · exact member
      · exact List.mem_append_left _ member

/-- The mean density on two contexts, of which the second binds a name that its fragment does not
use, and binds it to a value of a kind that fits no fragment. -/
theorem evaluation_confined_of_density :
    let given : Context := Bindings.ofList [("d_rho", .array [1.0])]
    let more : Context := given.insert "d_x" (.int 3)
    ∃ library block, standard = .ok library ∧ library.find? "RHOIJ" = some block ∧
      AgreeOn block.symbols given more ∧
      (∃ one other value, block.evaluate given = .ok one ∧ block.evaluate more = .ok other ∧
        one.find? "RHOIJ" = some value ∧ other.find? "RHOIJ" = some value) ∧
      ∃ result, block.evaluate more = .ok result ∧ result.find? "d_x" = some (.int 3) := by
  intro given more
  obtain ⟨library, built, confined⟩ := evaluation_confined
  have described : library.DescribedBy standardEntries := by
    obtain ⟨other, otherBuilt, described⟩ := exists_standard
    rw [built] at otherBuilt
    exact Except.ok.inj otherBuilt ▸ described
  obtain ⟨block, found, describes⟩ := described.found standardEntries[1] (List.getElem_mem _)
  have evaluable : block.isEvaluable = true := by
    rw [CodeBlock.isEvaluable, describes.evaluator]
    rfl
  have succeeds : (block.evaluate given).isOk = true := by
    rw [CodeBlock.evaluate, describes.evaluator, describes.defaults]
    change (mean "RHOIJ" "rho" (standardEntries[1].defaults.merge given)).isOk = true
    decide +kernel
  obtain ⟨_, sameValue, frame⟩ := confined "RHOIJ" block found evaluable
  have agree : AgreeOn block.symbols given more := by
    intro name member
    have different : name ≠ "d_x" := by
      rintro rfl
      rw [describes.symbols, NameSet.mem_of_list] at member
      exact absurd member (by decide)
    rw [Bindings.insert_find, if_neg different]
  have same := (sameValue given more agree).resolve_left fun ⟨_, failed, _⟩ => by
    rw [failed] at succeeds
    cases succeeds
  refine ⟨library, block, built, found, agree, same, ?_⟩
  obtain ⟨_, other, _, _, evaluatedMore, _⟩ := same
  refine ⟨other, evaluatedMore, ?_⟩
  rw [(frame more other evaluatedMore).1 "d_x" (by decide), Bindings.merge_find,
    Bindings.insert_find, if_pos rfl]
  rfl

end Library

end PairLoop
