import PairLoop.Library.SelfTest
import PairLoop.Library.Standard

/-!
When the evaluators of the standard library succeed, and what they give their target. Each reads
some values and then binds its target, so it fails only where a value cannot be read.
-/

namespace PairLoop

namespace Value

/-- The first value is an integer from zero on, and the second an array that is longer. -/
def Selects (index array : Value) : Prop :=
  ∃ number elements, index = .int number ∧ 0 ≤ number.toInt ∧ array = .array elements ∧
    number.toInt.toNat < elements.length

/-- A value that can be read as a number. -/
def IsNumber (value : Value) : Prop := value.kind = .real ∨ value.kind = .int

def IsVector (value : Value) : Prop := value.kind = .vector

end Value

theorem is_ok_ok {Result : Type} (result : Result) :
    (Except.ok result : Except EvalError Result).isOk = true := rfl

theorem is_ok_error {Result : Type} (error : EvalError) :
    (Except.error error : Except EvalError Result).isOk = false := rfl

theorem is_ok_bind_iff {First Second : Type} (first : Except EvalError First)
    (second : First → Except EvalError Second) :
    (first >>= second).isOk = true ↔ ∃ result, first = .ok result ∧ (second result).isOk = true := by
  cases first with
  | error error => simp [bind, Except.bind, is_ok_error]
  | ok result => simp [bind, Except.bind]

theorem is_ok_iff_exists {Result : Type} (outcome : Except EvalError Result) :
    outcome.isOk = true ↔ ∃ result, outcome = .ok result := by
  cases outcome with
  | error error => simp [is_ok_error]
  | ok result => simp [is_ok_ok]

/-- All of several readings succeed if each does. -/
theorem map_m_is_ok_iff {Input Result : Type} (read : Input → Except EvalError Result)
    (inputs : List Input) :
    (inputs.mapM read).isOk = true ↔ ∀ input ∈ inputs, (read input).isOk = true := by
  induction inputs with
  | nil => simp [pure, Except.pure, is_ok_ok]
  | cons input rest induction =>
    rw [List.mapM_cons, List.forall_mem_cons, ← induction]
    cases read input with
    | error error => simp [bind, Except.bind, is_ok_error]
    | ok result =>
      cases rest.mapM read with
      | error error => simp [bind, Except.bind, is_ok_ok, is_ok_error]
      | ok results => simp [bind, Except.bind, pure, Except.pure, is_ok_ok]

/-- What runs two steps fails in a certain way only if one of them does. -/
theorem bind_ne_error {First Second : Type} (first : Except EvalError First)
    (second : First → Except EvalError Second) (error : EvalError) (here : first ≠ .error error)
    (later : ∀ result, first = .ok result → second result ≠ .error error) :
    first >>= second ≠ .error error := by
  cases first with
  | error other =>
    intro same
    exact here (congrArg Except.error (Except.error.inj same))
  | ok result => exact later result rfl

namespace Context

/-- An array is bound to a name, and an index of one of its elements to another name. -/
def HasElement (context : Context) (name indexName : String) : Prop :=
  ∃ index array, context.find? indexName = some index ∧ context.find? name = some array ∧
    index.Selects array

theorem lookup_eq_ok_iff (context : Context) (name : String) (value : Value) :
    context.lookup name = .ok value ↔ context.find? name = some value := by
  unfold lookup
  cases context.find? name with
  | none => simp
  | some found => simp

theorem index_eq_ok_iff (context : Context) (name : String) (place : Nat) :
    context.index name = .ok place ↔
      ∃ number, context.find? name = some (.int number) ∧ 0 ≤ number.toInt ∧
        number.toInt.toNat = place := by
  unfold index lookup
  cases context.find? name with
  | none => simp [bind, Except.bind]
  | some value =>
    cases value with
    | int number =>
      simp only [bind, Except.bind, Option.some.injEq, Value.int.injEq, exists_eq_left']
      split
      · simp [*]
      · simp [*]
    | real => simp [bind, Except.bind]
    | vector => simp [bind, Except.bind]
    | array => simp [bind, Except.bind]

theorem element_is_ok_iff (context : Context) (name indexName : String) :
    (context.element name indexName).isOk = true ↔ context.HasElement name indexName := by
  unfold element HasElement Value.Selects
  rw [is_ok_bind_iff]
  simp only [index_eq_ok_iff, is_ok_bind_iff, lookup_eq_ok_iff]
  constructor
  · rintro ⟨place, ⟨number, bound, positive, rfl⟩, value, found, selected⟩
    cases value with
    | array elements =>
      by_cases inside : number.toInt.toNat < elements.length
      · exact ⟨_, _, bound, found, number, elements, rfl, positive, rfl, inside⟩
      · simp only [List.getElem?_eq_none (Nat.le_of_not_lt inside)] at selected
        cases selected
    | int => cases selected
    | real => cases selected
    | vector => cases selected
  · rintro ⟨_, _, bound, found, number, elements, rfl, positive, rfl, inside⟩
    refine ⟨_, ⟨number, bound, positive, rfl⟩, _, found, ?_⟩
    simp only [List.getElem?_eq_getElem inside]
    rfl

theorem lookup_ne_missing (context : Context) (name missing : String)
    (bound : name ∈ context.names) : context.lookup name ≠ .error (.missingBinding missing) := by
  obtain ⟨value, found⟩ := Bindings.exists_find context name bound
  rw [(lookup_eq_ok_iff context name value).2 found]
  simp

theorem index_ne_missing (context : Context) (name missing : String)
    (bound : name ∈ context.names) : context.index name ≠ .error (.missingBinding missing) := by
  unfold index
  apply bind_ne_error _ _ _ (lookup_ne_missing context name missing bound)
  intro value _
  cases value with
  | int number =>
    dsimp only
    split
    · simp
    · simp
  | _ => simp

/-- The element of a bound array at a bound index can be out of bounds or of a wrong kind, but it is
never missing. -/
theorem element_ne_missing (context : Context) (name indexName missing : String)
    (bound : name ∈ context.names) (indexBound : indexName ∈ context.names) :
    context.element name indexName ≠ .error (.missingBinding missing) := by
  unfold element
  apply bind_ne_error _ _ _ (index_ne_missing context indexName missing indexBound)
  intro place _
  apply bind_ne_error _ _ _ (lookup_ne_missing context name missing bound)
  intro value _
  cases value with
  | array elements =>
    dsimp only
    split
    · simp
    · simp
  | _ => simp

theorem real_is_ok_iff (context : Context) (name : String) :
    (context.real name).isOk = true ↔ ∃ value, context.find? name = some value ∧ value.IsNumber := by
  unfold real
  simp only [is_ok_bind_iff, lookup_eq_ok_iff]
  apply exists_congr
  intro value
  apply and_congr_right
  intro _
  cases value <;> simp [Value.IsNumber, Value.kind, is_ok_ok, is_ok_error]

theorem vector_is_ok_iff (context : Context) (name : String) :
    (context.vector name).isOk = true ↔
      ∃ value, context.find? name = some value ∧ value.IsVector := by
  unfold vector
  simp only [is_ok_bind_iff, lookup_eq_ok_iff]
  apply exists_congr
  intro value
  apply and_congr_right
  intro _
  cases value <;> simp [Value.IsVector, Value.kind, is_ok_ok, is_ok_error]

end Context

namespace Library

/-- Reads something and then binds a target to the value that it makes. -/
def computed {Input : Type} (context : Context) (target : String) (input : Except EvalError Input)
    (value : Input → Value) : Except EvalError Context :=
  input >>= fun result => .ok (context.insert target (value result))

section Computed

variable {Input : Type} (context : Context) (target : String) (input : Except EvalError Input)
  (value : Input → Value)

theorem computed_is_ok : (computed context target input value).isOk = input.isOk := by
  cases input with
  | error error => rfl
  | ok result => rfl

theorem value_of_computed :
    Trial.valueOf? target (computed context target input value) = input.toOption.map value := by
  cases input with
  | error error => rfl
  | ok result =>
    change (context.insert target (value result)).find? target = some (value result)
    rw [Bindings.insert_find, if_pos rfl]

end Computed

/-- The two elements of a quantity for a pair. -/
def HasPair (context : Context) (quantity : String) : Prop :=
  context.HasElement (Name.destinationMark ++ quantity) Name.destinationIndex ∧
    context.HasElement (Name.sourceMark ++ quantity) Name.sourceIndex

theorem pair_elements_is_ok_iff (context : Context) (quantity : String) :
    (pairElements context quantity).isOk = true ↔ HasPair context quantity := by
  rw [HasPair, ← Context.element_is_ok_iff, ← Context.element_is_ok_iff, pairElements,
    is_ok_bind_iff]
  simp only [is_ok_bind_iff, is_ok_ok, and_true, ← is_ok_iff_exists, exists_and_right]

theorem mean_eq (context : Context) (target quantity : String) :
    mean target quantity context =
      computed context target (pairElements context quantity)
        fun pair => .real (0.5 * (pair.1 + pair.2)) := rfl

/-- The components of a difference. -/
def differences (context : Context) (quantities : List String) : Except EvalError (List Float) :=
  quantities.mapM fun quantity =>
    pairElements context quantity >>= fun pair => .ok (pair.1 - pair.2)

theorem difference_eq (context : Context) (target : String) (quantities : List String) :
    difference target quantities context =
      computed context target (differences context quantities) .vector := rfl

theorem mean_is_ok_iff (context : Context) (target quantity : String) :
    (mean target quantity context).isOk = true ↔ HasPair context quantity := by
  rw [mean_eq, computed_is_ok, pair_elements_is_ok_iff]

theorem difference_is_ok_iff (context : Context) (target : String) (quantities : List String) :
    (difference target quantities context).isOk = true ↔
      ∀ quantity ∈ quantities, HasPair context quantity := by
  rw [difference_eq, computed_is_ok]
  simp only [differences, map_m_is_ok_iff, is_ok_bind_iff, is_ok_ok, and_true,
    ← is_ok_iff_exists, pair_elements_is_ok_iff]

theorem reciprocal_eq (context : Context) (target name : String) :
    reciprocal target name context =
      computed context target (context.real name) fun number => .real (1.0 / number) := rfl

theorem square_root_eq (context : Context) (target name : String) :
    squareRoot target name context =
      computed context target (context.real name) fun number => .real number.sqrt := rfl

theorem sum_of_squares_eq (context : Context) (target name : String) :
    sumOfSquares target name context =
      computed context target (context.vector name) fun components =>
        .real (components.foldl (fun sum component => sum + component * component) (-0.0)) := rfl

theorem reciprocal_is_ok_iff (context : Context) (target name : String) :
    (reciprocal target name context).isOk = true ↔
      ∃ value, context.find? name = some value ∧ value.IsNumber := by
  rw [reciprocal_eq, computed_is_ok, Context.real_is_ok_iff]

theorem square_root_is_ok_iff (context : Context) (target name : String) :
    (squareRoot target name context).isOk = true ↔
      ∃ value, context.find? name = some value ∧ value.IsNumber := by
  rw [square_root_eq, computed_is_ok, Context.real_is_ok_iff]

theorem sum_of_squares_is_ok_iff (context : Context) (target name : String) :
    (sumOfSquares target name context).isOk = true ↔
      ∃ value, context.find? name = some value ∧ value.IsVector := by
  rw [sum_of_squares_eq, computed_is_ok, Context.vector_is_ok_iff]

end Library

end PairLoop
