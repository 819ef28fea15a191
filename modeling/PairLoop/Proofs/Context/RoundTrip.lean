import PairLoop.Proofs.Context.Written
import PairLoop.Proofs.Json.Document

/-!
Contexts written as JSON and read again. Names, kinds, integers and lengths come back always, and so
does the order. Doubles are read fast rather than exactly, so each has to recover for itself; one
that is not finite has no numeral, and its context is refused. Main statement: a context comes back
exactly if all its doubles recover.
-/

namespace PairLoop

open Decimal

section Lists

variable {Item Image : Type}

/-- A list is read as itself exactly if each of its members is. -/
theorem map_m_eq_some_iff (read : Item → Option Item) (items : List Item) :
    items.mapM read = some items ↔ ∀ item ∈ items, read item = some item := by
  induction items with
  | nil => exact iff_of_true rfl fun _ impossible => absurd impossible List.not_mem_nil
  | cons item rest induction =>
    rw [List.mapM_cons, List.forall_mem_cons, ← induction]
    cases read item with
    | none => simp
    | some first =>
      cases rest.mapM read with
      | none => simp
      | some others => simp

theorem map_m_eq_none (read : Item → Option Image) (items : List Item) (item : Item)
    (member : item ∈ items) (failed : read item = none) : items.mapM read = none := by
  induction items with
  | nil => exact absurd member List.not_mem_nil
  | cons first rest induction =>
    rw [List.mapM_cons]
    rcases List.mem_cons.1 member with rfl | later
    · rw [failed]
      rfl
    · rw [induction later]
      cases read first with
      | none => rfl
      | some image => rfl

end Lists

namespace Json

/-- Whether a double is finite and comes back as itself from the numeral that JSON has for it. -/
def Recovers (number : Float) : Prop :=
  number.isFinite = true ∧
    ∃ numeral, reals.numeral? number = some numeral ∧ double? numeral = some number

/-- A double as it is read again. -/
def reread? (number : Float) : Option Float := asDouble? (ofFloat number)

theorem reread_eq_some_iff (number : Float) : reread? number = some number ↔ Recovers number := by
  unfold reread? Recovers ofFloat
  cases written : reals.numeral? number with
  | none =>
    have infinite := (numeral_eq_none_iff number).1 written
    simp [asDouble?, infinite]
  | some numeral =>
    simp [asDouble?, finite_of_numeral number numeral written]

theorem reread_of_infinite (number : Float) (infinite : number.isFinite = false) :
    reread? number = none := by
  rw [reread?, ofFloat, (numeral_eq_none_iff number).2 infinite]
  rfl

theorem as_doubles_of_floats (numbers : List Float) :
    asDoubles? (.array (numbers.map ofFloat)) = numbers.mapM reread? :=
  List.mapM_map

theorem int64_of_int (number : Int64) : int64? (.ofInt number.toInt) = some number := by
  have above := Int64.le_toInt number
  have below := Int64.toInt_lt number
  have magnitude : valueOf (Numeral.ofInt number.toInt).whole = number.toInt.natAbs :=
    value_of_digits_of _
  have bound : Nat.pow 2 63 = 9223372036854775808 := rfl
  by_cases negative : number.toInt < 0
  · have sign : (Numeral.ofInt number.toInt).negative = true := decide_eq_true negative
    have value : -(number.toInt.natAbs : Int) = number.toInt := by omega
    have inside : 1 ≤ number.toInt.natAbs ∧ number.toInt.natAbs ≤ 9223372036854775808 := by omega
    rw [int64?, magnitude, sign, value, Int64.ofInt_toInt, bound]
    exact (if_neg Bool.false_ne_true).trans ((if_pos rfl).trans (if_pos inside))
  · have sign : (Numeral.ofInt number.toInt).negative = false := decide_eq_false negative
    have value : (number.toInt.natAbs : Int) = number.toInt := by omega
    have inside : number.toInt.natAbs < 9223372036854775808 := by omega
    rw [int64?, magnitude, sign, value, Int64.ofInt_toInt, bound]
    exact (if_neg Bool.false_ne_true).trans ((if_neg Bool.false_ne_true).trans (if_pos inside))

theorem writable_of_float (number : Float) : Writable (ofFloat number) := by
  unfold ofFloat
  cases written : reals.numeral? number with
  | none => exact .null
  | some numeral => exact .number (admits_real number numeral written)

theorem writable_of_floats (numbers : List Float) :
    Writable (.array (numbers.map ofFloat)) := by
  apply Writable.array
  intro item member
  obtain ⟨number, _, rfl⟩ := List.mem_map.1 member
  exact writable_of_float number

theorem are_units_of_text (text : String) : AreUnits (unitsOf text) := by
  intro unit member
  obtain ⟨char, _, rfl⟩ := List.mem_map.1 member
  have valid : char.toNat < 0xD800 ∨ 0xDFFF < char.toNat ∧ char.toNat < 0x110000 := char.valid
  omega

theorem writable_of_fields (fields : List (String × Json))
    (writable : ∀ field ∈ fields, Writable field.2) : Writable (ofFields fields) := by
  apply Writable.object
  · intro field member
    obtain ⟨named, _, rfl⟩ := List.mem_map.1 member
    exact are_units_of_text named.1
  · intro field member
    obtain ⟨named, listed, rfl⟩ := List.mem_map.1 member
    exact writable named listed

theorem writable_of_field (key : String) (content : Json) (writable : Writable content) :
    Writable (ofFields [(key, content)]) := by
  apply writable_of_fields
  intro field member
  rw [List.mem_singleton.1 member]
  exact writable

end Json

namespace Value

/-- The doubles in a value. -/
def reals : Value → List Float
  | .int _ => []
  | .real number => [number]
  | .vector components => components
  | .array elements => elements

theorem writable_to_json (value : Value) : Json.Writable value.toJson := by
  cases value with
  | int number => exact Json.writable_of_field "Int" _ (.number (Json.admits_int number.toInt))
  | real number => exact Json.writable_of_field "Real" _ (Json.writable_of_float number)
  | vector components =>
    exact Json.writable_of_field "Vector" _ (Json.writable_of_floats components)
  | array elements => exact Json.writable_of_field "Array" _ (Json.writable_of_floats elements)

theorem of_json_tagged (tag : String) (content : Json) :
    ofJson? (.ofFields [(tag, content)]) = ofTag? tag content := by
  change (Json.stringOf? (Json.unitsOf tag)).bind (fun tag => ofTag? tag content) = _
  rw [Json.string_of_units_of, Option.bind_some]

theorem of_json_int (number : Int64) : ofJson? (toJson (.int number)) = some (.int number) := by
  rw [toJson, of_json_tagged]
  change (Json.int64? (.ofInt number.toInt)).map Value.int = _
  rw [Json.int64_of_int, Option.map_some]

theorem of_json_real (number : Float) :
    ofJson? (toJson (.real number)) = (Json.reread? number).map .real := by
  rw [toJson, of_json_tagged]
  rfl

theorem of_json_vector (components : List Float) :
    ofJson? (toJson (.vector components)) = (components.mapM Json.reread?).map .vector := by
  rw [toJson, of_json_tagged, ← Json.as_doubles_of_floats]
  rfl

theorem of_json_array (elements : List Float) :
    ofJson? (toJson (.array elements)) = (elements.mapM Json.reread?).map .array := by
  rw [toJson, of_json_tagged, ← Json.as_doubles_of_floats]
  rfl

/-- A value comes back as itself exactly if all its doubles do. -/
theorem of_json_to_json_iff (value : Value) :
    ofJson? value.toJson = some value ↔ ∀ number ∈ value.reals, Json.Recovers number := by
  simp only [← Json.reread_eq_some_iff]
  cases value with
  | int number => simp [of_json_int, reals]
  | real number => simp [of_json_real, reals]
  | vector components => simp [of_json_vector, reals, ← map_m_eq_some_iff]
  | array elements => simp [of_json_array, reals, ← map_m_eq_some_iff]

theorem of_json_of_infinite (value : Value) (number : Float) (member : number ∈ value.reals)
    (infinite : number.isFinite = false) : ofJson? value.toJson = none := by
  have failed := Json.reread_of_infinite number infinite
  cases value with
  | int _ => exact absurd member List.not_mem_nil
  | real only =>
    rw [of_json_real, ← List.mem_singleton.1 member, failed, Option.map_none]
  | vector components =>
    rw [of_json_vector, map_m_eq_none _ components number member failed, Option.map_none]
  | array elements =>
    rw [of_json_array, map_m_eq_none _ elements number member failed, Option.map_none]

end Value

namespace Context

/-- All doubles in a context. -/
def reals (context : Context) : List Float := context.values.flatMap Value.reals

theorem mem_reals_iff (context : Context) (number : Float) :
    number ∈ context.reals ↔ ∃ pair ∈ context.pairs, number ∈ pair.2.reals := by
  rw [reals, Bindings.values, List.flatMap_map, List.mem_flatMap]

/-- A binding as it is read again. -/
def rereadBinding? (pair : String × Value) : Option (String × Value) :=
  (Value.ofJson? pair.2.toJson).map fun value => (pair.1, value)

theorem reread_binding_iff (pair : String × Value) :
    rereadBinding? pair = some pair ↔ Value.ofJson? pair.2.toJson = some pair.2 := by
  rcases pair with ⟨name, value⟩
  unfold rereadBinding?
  cases Value.ofJson? value.toJson with
  | none => simp
  | some read => simp

theorem binding_of_json (pair : String × Value) :
    bindingOfJson? (Json.unitsOf pair.1, pair.2.toJson) = rereadBinding? pair := by
  unfold bindingOfJson? rereadBinding?
  rw [Json.string_of_units_of]
  cases Value.ofJson? pair.2.toJson with
  | none => rfl
  | some read => rfl

theorem of_json_to_json (context : Context) :
    ofJson? context.toJson = (context.pairs.mapM rereadBinding?).map Bindings.ofList := by
  have each : (fun pair : String × Value => bindingOfJson? (Json.unitsOf pair.1, pair.2.toJson)) =
      rereadBinding? := funext binding_of_json
  change (List.mapM bindingOfJson? ((context.pairs.map _).map _)).map Bindings.ofList = _
  rw [List.mapM_map, List.mapM_map, ← each]
  rfl

theorem names_of_reread (pairs others : List (String × Value))
    (read : pairs.mapM rereadBinding? = some others) :
    others.map Prod.fst = pairs.map Prod.fst := by
  induction pairs generalizing others with
  | nil =>
    cases read
    rfl
  | cons pair rest induction =>
    rw [List.mapM_cons] at read
    obtain ⟨first, firstRead, more⟩ := Option.bind_eq_some_iff.1 read
    obtain ⟨later, laterRead, same⟩ := Option.bind_eq_some_iff.1 more
    obtain ⟨value, _, rfl⟩ := Option.map_eq_some_iff.1 firstRead
    cases same
    rw [List.map_cons, List.map_cons, induction later laterRead]

theorem writable_to_json (context : Context) : Json.Writable context.toJson := by
  apply Json.writable_of_fields
  intro field member
  obtain ⟨pair, _, rfl⟩ := List.mem_map.1 member
  exact pair.2.writable_to_json

theorem read_rendered (context : Context) :
    read? context.render = (context.pairs.mapM rereadBinding?).map Bindings.ofList := by
  rw [read?, render, Json.read_render _ context.writable_to_json, Option.bind_some,
    of_json_to_json]

/-- What is read has the names of the context in order, so it is the context exactly if each binding
is read as itself. -/
theorem read_rendered_eq_some_iff (context : Context) :
    read? context.render = some context ↔ ∀ number ∈ context.reals, Json.Recovers number := by
  have each : (∀ number ∈ context.reals, Json.Recovers number) ↔
      context.pairs.mapM rereadBinding? = some context.pairs := by
    rw [map_m_eq_some_iff]
    simp only [reread_binding_iff, Value.of_json_to_json_iff, mem_reals_iff]
    constructor
    · intro recovers pair bound number member
      exact recovers number ⟨pair, bound, member⟩
    · rintro recovers number ⟨pair, bound, member⟩
      exact recovers pair bound number member
  rw [read_rendered, each]
  constructor
  · intro read
    obtain ⟨others, othersRead, same⟩ := Option.map_eq_some_iff.1 read
    have distinct : (others.map Prod.fst).Nodup := by
      rw [names_of_reread _ _ othersRead]
      exact context.distinct
    have pairs := Bindings.of_list_pairs others distinct
    rw [same] at pairs
    rw [othersRead, pairs]
  · intro read
    rw [read, Option.map_some, Option.some.injEq]
    exact Bindings.ext _ _ (Bindings.of_list_pairs context.pairs context.distinct)

theorem read_rendered_of_infinite (context : Context) (number : Float)
    (member : number ∈ context.reals) (infinite : number.isFinite = false) :
    read? context.render = none := by
  obtain ⟨pair, bound, inside⟩ := (mem_reals_iff context number).1 member
  have failed : rereadBinding? pair = none := by
    rw [rereadBinding?, Value.of_json_of_infinite pair.2 number inside infinite, Option.map_none]
  rw [read_rendered, map_m_eq_none _ context.pairs pair bound failed, Option.map_none]

/-- What a context is written as, and what is read from that text. -/
theorem rendered_and_read_again (context : Context) :
    context.render.toList = context.text ∧
      (read? context.render = some context ↔
        ∀ number ∈ context.reals, Json.Recovers number) ∧
      ((∃ number ∈ context.reals, number.isFinite = false) → read? context.render = none) := by
  refine ⟨render_to_list context, read_rendered_eq_some_iff context, ?_⟩
  rintro ⟨number, member, infinite⟩
  exact read_rendered_of_infinite context number member infinite

/-- Names with quotes, controls and no characters at all, the least integer, and doubles at the ends
of their range. An infinity in an array is refused. -/
theorem rendered_and_read_again_at_ends :
    let numbers : Context := Bindings.ofList [("", .int Int64.minValue), ("\"\\\x01é", .real 0.1),
      ("v", .vector [-0.0, 1.0e300, 5.0e-324]), ("a", .array [])]
    let broken : Context := Bindings.ofList [("\n", .int 1), ("a", .array [1.0, 1.0 / 0.0])]
    (∀ number ∈ numbers.reals, Json.Recovers number) ∧ read? numbers.render = some numbers ∧
      (∃ number ∈ broken.reals, number.isFinite = false) ∧ read? broken.render = none := by
  intro numbers broken
  have recovered : ∀ number ∈ numbers.reals, Json.reread? number = some number := by
    decide +kernel
  have recovers : ∀ number ∈ numbers.reals, Json.Recovers number := by
    intro number member
    exact (Json.reread_eq_some_iff number).1 (recovered number member)
  have infinite : ∃ number ∈ broken.reals, number.isFinite = false := by
    decide +kernel
  obtain ⟨_, again, _⟩ := rendered_and_read_again numbers
  obtain ⟨_, _, refused⟩ := rendered_and_read_again broken
  exact ⟨recovers, again.2 recovers, infinite, refused infinite⟩

end Context

end PairLoop
