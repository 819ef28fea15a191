import Mathlib.Tactic.FinCases
import PairLoop.Proofs.Json.Numeral

/-!
Reading compact text gives the document back that it was written from. A document can be written if
its numerals are numbers of JSON and its units are those of code points. The text of a document may
be followed by anything that does not continue a number, and a bound of two calls for each code
point is enough.
-/

namespace PairLoop.Json

open PairLoop.Decimal

def AreUnits (units : List Nat) : Prop := ∀ unit ∈ units, unit < 0x110000

/-- Documents that have a text. -/
inductive Writable : Json → Prop
  | null : Writable .null
  | bool (value : Bool) : Writable (.bool value)
  | number {numeral : Numeral} (admits : Admits numeral) : Writable (.number numeral)
  | string {units : List Nat} (valid : AreUnits units) : Writable (.string units)
  | array {items : List Json} (writable : ∀ item ∈ items, Writable item) : Writable (.array items)
  | object {fields : List (List Nat × Json)} (valid : ∀ field ∈ fields, AreUnits field.1)
      (writable : ∀ field ∈ fields, Writable field.2) : Writable (.object fields)

/-- Whether reading the text of a document gives it back, with what follows left over. -/
def ReadsBack (document : Json) : Prop :=
  ∀ bound suffix, 2 * document.text.length ≤ bound → EndsNumber suffix →
    readValue bound (document.text ++ suffix) = some (document, suffix)

/-- The code points that a number can begin with. -/
def numberMarks : List Char := ['-', '0', '1', '2', '3', '4', '5', '6', '7', '8', '9']

theorem mem_number_marks (digit : Digit) : digit.toChar ∈ numberMarks := by
  revert digit
  decide

theorem read_value_of_mark (bound : Nat) (mark : Char) (rest : List Char)
    (begins : mark ∈ numberMarks) :
    readValue (bound + 1) (mark :: rest) =
      (readNumeral (mark :: rest)).map fun found => (.number found.1, found.2) := by
  fin_cases begins <;> rfl

theorem ends_number_of_mark (mark : Char) (rest : List Char)
    (ends : Digit.ofChar? mark = none ∧ mark ≠ '.' ∧ mark ≠ 'e' ∧ mark ≠ 'E') :
    EndsNumber (mark :: rest) := by
  intro char behind same
  exact (List.cons.inj same).1 ▸ ends

theorem numeral_text_begins (numeral : Numeral) (admits : Admits numeral) :
    ∃ mark rest, numeral.text = mark :: rest ∧ mark ∈ numberMarks := by
  rcases numeral with ⟨negative, whole, fraction, exponent⟩
  cases negative with
  | true => exact ⟨'-', _, rfl, List.mem_cons_self⟩
  | false =>
    cases whole with
    | nil => exact absurd admits.whole Bool.false_ne_true
    | cons digit others => exact ⟨digit.toChar, _, rfl, mem_number_marks digit⟩

/-- The first code point of a text tells that a value begins. -/
theorem text_begins (document : Json) (writable : Writable document) :
    ∃ mark rest, document.text = mark :: rest ∧ isSpace mark = false ∧ mark ≠ ']' := by
  cases writable with
  | null => exact ⟨'n', _, rfl, rfl, by decide⟩
  | bool value =>
    cases value with
    | false => exact ⟨'f', _, rfl, rfl, by decide⟩
    | true => exact ⟨'t', _, rfl, rfl, by decide⟩
  | number admits =>
    obtain ⟨mark, rest, begins, member⟩ := numeral_text_begins _ admits
    refine ⟨mark, rest, ?_, ?_⟩
    · rw [text, begins]
    · fin_cases member <;> decide
  | string valid => exact ⟨'"', _, rfl, rfl, by decide⟩
  | array writable => exact ⟨'[', _, rfl, rfl, by decide⟩
  | object valid writable => exact ⟨'\x7b', _, rfl, rfl, by decide⟩

/-- No text is empty, so a bound that is enough admits a call. -/
theorem reads_back_of_step (document : Json) (writable : Writable document)
    (step : ∀ bound suffix, 2 * document.text.length ≤ bound + 1 → EndsNumber suffix →
      readValue (bound + 1) (document.text ++ suffix) = some (document, suffix)) :
    ReadsBack document := by
  intro bound suffix enough ends
  obtain ⟨mark, rest, begins, _⟩ := text_begins document writable
  cases bound with
  | zero =>
    rw [begins, List.length_cons] at enough
    omega
  | succ bound => exact step bound suffix enough ends

theorem reads_back_number (numeral : Numeral) (admits : Admits numeral) :
    ReadsBack (.number numeral) := by
  apply reads_back_of_step _ (.number admits)
  intro bound suffix _ ends
  obtain ⟨mark, rest, begins, member⟩ := numeral_text_begins numeral admits
  have read := read_numeral_text numeral suffix admits.whole admits.written ends
  rw [text]
  rw [begins, List.cons_append] at read ⊢
  rw [read_value_of_mark bound mark _ member, read]
  rfl

theorem reads_back_string (units : List Nat) (valid : AreUnits units) :
    ReadsBack (.string units) := by
  apply reads_back_of_step _ (.string valid)
  intro bound suffix _ _
  have read := read_units_literal units valid suffix
  rw [text, stringLiteral, List.append_assoc, List.cons_append, List.singleton_append]
  change (readUnits _).map _ = _
  rw [read]
  rfl

theorem skip_spaces_of_mark (mark : Char) (rest : List Char) (visible : isSpace mark = false) :
    skipSpaces (mark :: rest) = mark :: rest := by
  rw [skipSpaces, List.dropWhile_cons, visible]
  rfl

theorem ends_number_comma (rest : List Char) : EndsNumber (',' :: rest) :=
  ends_number_of_mark ',' rest (by decide)

theorem ends_number_bracket (rest : List Char) : EndsNumber (']' :: rest) :=
  ends_number_of_mark ']' rest (by decide)

theorem ends_number_brace (rest : List Char) : EndsNumber ('\x7d' :: rest) :=
  ends_number_of_mark '\x7d' rest (by decide)

theorem read_items_last (bound : Nat) (item : Json) (text suffix : List Char)
    (read : readValue bound text = some (item, ']' :: suffix)) :
    readItems (bound + 1) text = some ([item], suffix) := by
  rw [readItems, read]
  rfl

theorem read_items_more (bound : Nat) (item : Json) (items : List Json)
    (text behind suffix : List Char) (read : readValue bound text = some (item, ',' :: behind))
    (others : readItems bound behind = some (items, suffix)) :
    readItems (bound + 1) text = some (item :: items, suffix) := by
  rw [readItems, read]
  change (readItems bound behind).map _ = _
  rw [others]
  rfl

theorem read_items_text (items : List Json) (present : items ≠ [])
    (readable : ∀ item ∈ items, ReadsBack item) (bound : Nat) (suffix : List Char)
    (enough : 2 * (itemsText items).length + 1 ≤ bound) :
    readItems bound (itemsText items ++ ']' :: suffix) = some (items, suffix) := by
  induction items generalizing bound with
  | nil => exact absurd rfl present
  | cons item rest induction =>
    have first := readable item List.mem_cons_self
    cases bound with
    | zero => omega
    | succ bound =>
      cases rest with
      | nil =>
        rw [itemsText, List.isEmpty_nil, if_pos rfl, List.append_nil] at enough ⊢
        apply read_items_last
        exact first bound _ (by omega) (ends_number_bracket suffix)
      | cons next others =>
        rw [itemsText, List.isEmpty_cons, if_neg Bool.false_ne_true, List.append_assoc,
          List.cons_append]
        rw [itemsText, List.isEmpty_cons, if_neg Bool.false_ne_true, List.length_append,
          List.length_cons] at enough
        apply read_items_more bound item (next :: others) _ (itemsText (next :: others) ++ _)
        · exact first bound _ (by omega) (ends_number_comma _)
        · apply induction (List.cons_ne_nil next others) _ bound (by omega)
          intro other member
          exact readable other (List.mem_cons_of_mem item member)

theorem items_text_begins (item : Json) (rest : List Json) (writable : Writable item) :
    ∃ mark tail, itemsText (item :: rest) = mark :: tail ∧ isSpace mark = false ∧ mark ≠ ']' := by
  obtain ⟨mark, tail, begins, visible, notEnd⟩ := text_begins item writable
  rw [itemsText, begins, List.cons_append]
  exact ⟨mark, _, rfl, visible, notEnd⟩

theorem read_value_items (bound : Nat) (mark : Char) (rest : List Char)
    (visible : isSpace mark = false) (notEnd : mark ≠ ']') :
    readValue (bound + 1) ('[' :: mark :: rest) =
      (readItems bound (mark :: rest)).map fun found => (.array found.1, found.2) := by
  have opening := skip_spaces_of_mark '[' (mark :: rest) rfl
  have first := skip_spaces_of_mark mark rest visible
  simp only [readValue, opening, first]
  split
  · next same => exact absurd (List.cons.inj same).1 notEnd
  · rfl

theorem reads_back_array (items : List Json) (writable : ∀ item ∈ items, Writable item)
    (readable : ∀ item ∈ items, ReadsBack item) : ReadsBack (.array items) := by
  apply reads_back_of_step _ (.array writable)
  intro bound suffix enough _
  rw [text, List.length_append, List.length_cons] at enough
  rw [text, List.append_assoc, List.cons_append, List.singleton_append]
  cases items with
  | nil => rfl
  | cons item rest =>
    have read := read_items_text (item :: rest) (List.cons_ne_nil item rest) readable bound suffix
      (by omega)
    obtain ⟨mark, tail, begins, visible, notEnd⟩ :=
      items_text_begins item rest (writable item List.mem_cons_self)
    rw [begins, List.cons_append] at read ⊢
    rw [read_value_items bound mark _ visible notEnd, read]
    rfl

theorem read_fields_last (bound : Nat) (key : List Nat) (value : Json)
    (text behind suffix : List Char) (keyRead : readUnits text = some (key, ':' :: behind))
    (read : readValue bound behind = some (value, '\x7d' :: suffix)) :
    readFields (bound + 1) ('"' :: text) = some ([(key, value)], suffix) := by
  have quote := skip_spaces_of_mark '"' text rfl
  have colon := skip_spaces_of_mark ':' behind rfl
  have brace := skip_spaces_of_mark '\x7d' suffix rfl
  simp only [readFields, quote, keyRead, colon, read, brace]

theorem read_fields_more (bound : Nat) (key : List Nat) (value : Json)
    (fields : List (List Nat × Json)) (text behind rest suffix : List Char)
    (keyRead : readUnits text = some (key, ':' :: behind))
    (read : readValue bound behind = some (value, ',' :: rest))
    (others : readFields bound rest = some (fields, suffix)) :
    readFields (bound + 1) ('"' :: text) = some ((key, value) :: fields, suffix) := by
  have quote := skip_spaces_of_mark '"' text rfl
  have colon := skip_spaces_of_mark ':' behind rfl
  have comma := skip_spaces_of_mark ',' rest rfl
  simp only [readFields, quote, keyRead, colon, read, comma, others, Option.map_some]

/-- A field with what stands behind its value. -/
theorem fields_text_cons (key : List Nat) (value : Json) (rest : List (List Nat × Json))
    (suffix : List Char) :
    fieldsText ((key, value) :: rest) ++ suffix =
      '"' :: (key.flatMap unitText ++ '"' :: ':' :: (value.text ++
        ((if rest.isEmpty then [] else ',' :: fieldsText rest) ++ suffix))) := by
  rw [fieldsText, stringLiteral]
  simp only [List.append_assoc, List.cons_append, List.nil_append]

theorem fields_text_length (key : List Nat) (value : Json) (rest : List (List Nat × Json)) :
    value.text.length + (if rest.isEmpty then [] else ',' :: fieldsText rest).length ≤
      (fieldsText ((key, value) :: rest)).length := by
  rw [fieldsText, List.length_append, List.length_append, List.length_cons]
  omega

theorem read_fields_text (fields : List (List Nat × Json)) (present : fields ≠ [])
    (valid : ∀ field ∈ fields, AreUnits field.1) (readable : ∀ field ∈ fields, ReadsBack field.2)
    (bound : Nat) (suffix : List Char) (enough : 2 * (fieldsText fields).length + 1 ≤ bound) :
    readFields bound (fieldsText fields ++ '\x7d' :: suffix) = some (fields, suffix) := by
  induction fields generalizing bound with
  | nil => exact absurd rfl present
  | cons field rest induction =>
    rcases field with ⟨key, value⟩
    have first : ReadsBack value := readable (key, value) List.mem_cons_self
    have keyRead := read_units_literal key (valid (key, value) List.mem_cons_self)
    have shorter := fields_text_length key value rest
    cases bound with
    | zero => omega
    | succ bound =>
      cases rest with
      | nil =>
        rw [List.isEmpty_nil, if_pos rfl, List.length_nil] at shorter
        rw [fields_text_cons]
        apply read_fields_last bound key value _ _ suffix (keyRead _)
        exact first bound _ (by omega) (ends_number_brace suffix)
      | cons next others =>
        rw [List.isEmpty_cons, if_neg Bool.false_ne_true, List.length_cons] at shorter
        rw [fields_text_cons, List.isEmpty_cons, if_neg Bool.false_ne_true, List.cons_append]
        apply read_fields_more bound key value (next :: others) _ _ _ suffix (keyRead _)
        · exact first bound _ (by omega) (ends_number_comma _)
        · apply induction (List.cons_ne_nil next others) _ _ bound (by omega)
          · intro other member
            exact valid other (List.mem_cons_of_mem _ member)
          · intro other member
            exact readable other (List.mem_cons_of_mem _ member)

theorem reads_back_object (fields : List (List Nat × Json))
    (valid : ∀ field ∈ fields, AreUnits field.1) (writable : ∀ field ∈ fields, Writable field.2)
    (readable : ∀ field ∈ fields, ReadsBack field.2) : ReadsBack (.object fields) := by
  apply reads_back_of_step _ (.object valid writable)
  intro bound suffix enough _
  rw [text, List.length_append, List.length_cons] at enough
  rw [text, List.append_assoc, List.cons_append, List.singleton_append]
  cases fields with
  | nil => rfl
  | cons field rest =>
    have read := read_fields_text (field :: rest) (List.cons_ne_nil field rest) valid readable
      bound suffix (by omega)
    rcases field with ⟨key, value⟩
    rw [fields_text_cons] at read ⊢
    change (readFields bound _).map _ = _
    rw [read]
    rfl

theorem reads_back (document : Json) (writable : Writable document) : ReadsBack document := by
  induction writable with
  | null => exact reads_back_of_step _ .null fun _ _ _ _ => rfl
  | bool value =>
    apply reads_back_of_step _ (.bool value)
    intro bound suffix _ _
    cases value with
    | false => rfl
    | true => rfl
  | number admits => exact reads_back_number _ admits
  | string valid => exact reads_back_string _ valid
  | array writable readable => exact reads_back_array _ writable readable
  | object valid writable readable => exact reads_back_object _ valid writable readable

/-- Reading the text of a document gives the document. -/
theorem read_render (document : Json) (writable : Writable document) :
    read? document.render = some document := by
  have read := reads_back document writable (2 * document.text.length + 2) []
    (Nat.le_add_right _ _) (fun _ _ impossible => nomatch impossible)
  rw [List.append_nil] at read
  simp only [read?, render, String.toList_ofList, read]
  rfl

end PairLoop.Json
