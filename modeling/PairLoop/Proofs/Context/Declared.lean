import Mathlib.Data.List.Nodup
import PairLoop.Group.Declarations
import PairLoop.Proofs.Context.Written
import PairLoop.Proofs.Fragment.Margin

/-!
The variables of a context as they are declared and as they are assigned. Both texts go through the
bindings in ascending order of names, which hides the order in which the names were bound. A number
is assigned by the line that declares it without the type in front; a vector is declared only, and
a particle array is neither. Numbers are written without line feeds, so a name is all that could
break a line. Main statement: `variables_by_lines`.
-/

namespace PairLoop

namespace Bindings

variable {Value : Type}

/-- The pairs of bindings in ascending order of their names. -/
def ordered (bindings : Bindings Value) : List (String × Value) :=
  (NameSet.ofList bindings.names).toList.filterMap fun name =>
    (bindings.find? name).map fun value => (name, value)

theorem mem_ordered_iff (bindings : Bindings Value) (pair : String × Value) :
    pair ∈ bindings.ordered ↔ pair ∈ bindings.pairs := by
  rcases pair with ⟨name, value⟩
  rw [ordered, List.mem_filterMap, ← find_eq_some_iff]
  constructor
  · rintro ⟨other, _, taken⟩
    obtain ⟨bound, found, same⟩ := Option.map_eq_some_iff.1 taken
    cases same
    exact found
  · intro found
    have bound : name ∈ bindings.names := by
      rw [← find_is_some, found, Option.isSome_some]
    refine ⟨name, (NameSet.mem_of_list _ name).2 bound, ?_⟩
    rw [found, Option.map_some]

theorem ordered_ascends (bindings : Bindings Value) :
    bindings.ordered.Pairwise fun first second => first.1 < second.1 := by
  apply List.pairwise_filterMap.2
  apply (NameSet.ofList bindings.names).ascending.imp
  intro first second before pair taken other otherTaken
  obtain ⟨value, _, rfl⟩ := Option.map_eq_some_iff.1 taken
  obtain ⟨otherValue, _, rfl⟩ := Option.map_eq_some_iff.1 otherTaken
  exact before

theorem ordered_perm (bindings : Bindings Value) : bindings.ordered.Perm bindings.pairs := by
  have orderedOnce : bindings.ordered.Nodup := by
    apply bindings.ordered_ascends.imp
    rintro first second before rfl
    exact String.lt_irrefl _ before
  have once : bindings.pairs.Nodup := List.Nodup.of_map Prod.fst bindings.distinct
  rw [List.perm_ext_iff_of_nodup orderedOnce once]
  exact bindings.mem_ordered_iff

theorem ordered_of_reordered (first second : Bindings Value)
    (reordered : first.pairs.Perm second.pairs) : first.ordered = second.ordered := by
  have same : first.ordered.Perm second.ordered :=
    (first.ordered_perm.trans reordered).trans second.ordered_perm.symm
  apply List.Perm.eq_of_pairwise _ first.ordered_ascends second.ordered_ascends same
  intro pair other _ _ before behind
  exact absurd (String.lt_trans before behind) (String.lt_irrefl _)

end Bindings

section Lines

/-- A text of one line. -/
def Unbroken (text : String) : Prop := '\n' ∉ text.toList

instance (text : String) : Decidable (Unbroken text) :=
  inferInstanceAs (Decidable ('\n' ∉ text.toList))

theorem unbroken_append (first second : String) :
    Unbroken (first ++ second) ↔ Unbroken first ∧ Unbroken second := by
  rw [Unbroken, String.toList_append, List.mem_append, not_or]
  rfl

/-- Joined lines are found again in their text if none of them is broken and there are any. -/
theorem split_joined_iff (lines : List String) :
    (String.intercalate "\n" lines).toList.splitOn '\n' = lines.map String.toList ↔
      lines ≠ [] ∧ ∀ line ∈ lines, Unbroken line := by
  rw [String.toList_intercalate]
  constructor
  · intro found
    constructor
    · rintro rfl
      exact List.splitOn_ne_nil _ _ found
    · intro line member
      apply Fragment.not_mem_of_mem_split_on '\n'
      rw [found]
      exact List.mem_map_of_mem member
  · rintro ⟨some, unbroken⟩
    apply List.splitOn_intercalate
    · intro text member
      obtain ⟨line, listed, rfl⟩ := List.mem_map.1 member
      exact unbroken line listed
    · exact mt List.map_eq_nil_iff.1 some

theorem unbroken_nat (number : Nat) : Unbroken (toString number) := by
  intro feed
  rw [Nat.toString_eq_repr, Nat.toList_repr] at feed
  have digit := Nat.isDigit_of_mem_toDigits (by decide) (by decide) feed
  exact absurd digit (by decide)

theorem line_feed_not_mem_numeral (numeral : Decimal.Numeral) : '\n' ∉ numeral.text := by
  have other : ∀ digit : Decimal.Digit, digit.toChar ≠ '\n' := by decide
  have digits : ∀ part : List Decimal.Digit, '\n' ∉ part.map Decimal.Digit.toChar := by
    intro part feed
    obtain ⟨digit, _, same⟩ := List.mem_map.1 feed
    exact other digit same
  have sign : '\n' ∉ if numeral.negative then ['-'] else [] := by
    cases numeral.negative <;> decide
  have fraction : '\n' ∉ Decimal.fractionText numeral.fraction := by
    unfold Decimal.fractionText
    split
    · exact List.not_mem_nil
    · exact List.not_mem_cons_of_ne_of_not_mem (by decide) (digits _)
  have exponent : '\n' ∉ Decimal.exponentText numeral.exponent := by
    cases numeral.exponent with
    | none => exact List.not_mem_nil
    | some part =>
      have mark : '\n' ∉ 'e' :: part.sign.text := by
        cases part.sign <;> decide
      exact List.not_mem_append mark (digits part.digits)
  exact List.not_mem_append
    (List.not_mem_append (List.not_mem_append sign (digits _)) fraction) exponent

theorem unbroken_int (number : Int) : Unbroken (toString number) := by
  rw [Unbroken, ← Decimal.int_text]
  exact line_feed_not_mem_numeral _

theorem unbroken_literal (number : Float) : Unbroken (Decimal.literal number) := by
  unfold Decimal.literal
  cases Decimal.literals.numeral? number with
  | some numeral =>
    rw [Unbroken, String.toList_ofList]
    exact line_feed_not_mem_numeral numeral
  | none =>
    dsimp only
    split
    · decide
    · split <;> decide

end Lines

/-- The line that declares a binding. For a number it is a type and the text of the assignment; a
particle array has none. -/
inductive Declares (name : String) : Value → String → Prop
  | int (number : Int64) :
    Declares name (.int number) ("cdef long " ++ (name ++ " = " ++ toString number.toInt))
  | real (number : Float) :
    Declares name (.real number) ("cdef double " ++ (name ++ " = " ++ Decimal.literal number))
  | vector (components : List Float) :
    Declares name (.vector components)
      ("cdef double[" ++ toString components.length ++ "] " ++ name)

/-- A variable together with its line. -/
structure Declaration where
  name : String
  value : Value
  line : String
  declares : Declares name value line

/-- A line without the type of a number in front. -/
def withoutType (line : String) : String :=
  String.ofList (((line.toList.dropPrefix? "cdef long ".toList).or
    (line.toList.dropPrefix? "cdef double ".toList)).getD line.toList)

theorem without_type_long (text : String) : withoutType ("cdef long " ++ text) = text := by
  rw [withoutType, String.toList_append, List.dropPrefix?_append_of_beq _ (beq_self_eq_true _),
    Option.some_or, Option.getD_some, String.ofList_toList]

theorem without_type_double (text : String) : withoutType ("cdef double " ++ text) = text := by
  -- The types already differ behind the word that they share.
  have other : ("cdef double " ++ text).toList.dropPrefix? "cdef long ".toList = none := by
    rw [String.toList_append]
    rfl
  rw [withoutType, other, Option.none_or, String.toList_append,
    List.dropPrefix?_append_of_beq _ (beq_self_eq_true _), Option.getD_some, String.ofList_toList]

namespace Declaration

def binding (declaration : Declaration) : String × Value := (declaration.name, declaration.value)

def of? (name : String) : Value → Option Declaration
  | .int number => some ⟨name, _, _, .int number⟩
  | .real number => some ⟨name, _, _, .real number⟩
  | .vector components => some ⟨name, _, _, .vector components⟩
  | .array _ => none

theorem binding_of (name : String) (value : Value) :
    (of? name value).map binding = if value.kind != .array then some (name, value) else none := by
  cases value with
  | int number => rfl
  | real number => rfl
  | vector components => rfl
  | array elements => rfl

theorem line_of (name : String) (value : Value) :
    (of? name value).map line = declaration? name value := by
  cases value with
  | int number => simp [of?, declaration?, String.append_assoc]
  | real number => simp [of?, declaration?, String.append_assoc]
  | vector components => rfl
  | array elements => rfl

/-- A number keeps the text that it has when it is declared. -/
theorem assignment_of (name : String) (value : Value) :
    ((of? name value).filter fun entry => entry.value.kind != .vector).map
      (fun entry => withoutType entry.line) = assignment? name value := by
  cases value with
  | int number => exact congrArg some (without_type_long _)
  | real number => exact congrArg some (without_type_double _)
  | vector components => rfl
  | array elements => rfl

theorem unbroken_iff (declaration : Declaration) :
    Unbroken declaration.line ↔ Unbroken declaration.name := by
  rcases declaration with ⟨name, value, line, declares⟩
  have long : Unbroken "cdef long " := by decide
  have double : Unbroken "cdef double " := by decide
  have vector : Unbroken "cdef double[" := by decide
  have equals : Unbroken " = " := by decide
  have closing : Unbroken "] " := by decide
  cases declares with
  | int number =>
    simp only [unbroken_append, unbroken_int, long, equals, true_and, and_true]
  | real number =>
    simp only [unbroken_append, unbroken_literal, double, equals, true_and, and_true]
  | vector components =>
    simp only [unbroken_append, unbroken_nat, vector, closing, true_and]

end Declaration

namespace Context

theorem variable_lines_eq (line? : String → Value → Option String) (context : Context) :
    context.variableLines line? = context.ordered.filterMap fun pair => line? pair.1 pair.2 := by
  rw [variableLines, Bindings.ordered, List.filterMap_filterMap]
  apply List.filterMap_congr
  intro name _
  rw [Option.bind_map]
  rfl

/-- The variables of a context in ascending order of their names. -/
def declared (context : Context) : List Declaration :=
  context.ordered.filterMap fun pair => Declaration.of? pair.1 pair.2

theorem bindings_declared (context : Context) :
    context.declared.map Declaration.binding =
      context.ordered.filter fun pair => pair.2.kind != .array := by
  rw [declared, List.map_filterMap, ← List.filterMap_eq_filter]
  apply List.filterMap_congr
  intro pair _
  rw [Declaration.binding_of]
  rfl

theorem lines_declared (context : Context) :
    context.declared.map Declaration.line = context.variableLines declaration? := by
  rw [variable_lines_eq, declared, List.map_filterMap]
  apply List.filterMap_congr
  intro pair _
  exact Declaration.line_of pair.1 pair.2

theorem numbers_declared (context : Context) :
    ((context.declared.filter fun entry => entry.value.kind != .vector).map
      fun entry => withoutType entry.line) = context.variableLines assignment? := by
  rw [variable_lines_eq, declared, List.filter_filterMap, List.map_filterMap]
  apply List.filterMap_congr
  intro pair _
  exact Declaration.assignment_of pair.1 pair.2

theorem declared_ascends (context : Context) :
    context.declared.Pairwise fun first second => first.name < second.name := by
  have bindings : (context.declared.map Declaration.binding).Pairwise
      fun first second => first.1 < second.1 := by
    rw [bindings_declared]
    exact context.ordered_ascends.filter _
  rw [List.pairwise_map] at bindings
  exact bindings

theorem declared_perm (context : Context) :
    (context.declared.map Declaration.binding).Perm
      (context.pairs.filter fun pair => pair.2.kind != .array) := by
  rw [bindings_declared]
  exact context.ordered_perm.filter _

/-- The variables of a context are its bindings but those of particle arrays, each of them once and
in ascending order of names. The declarations are the lines of the variables; the assignments are
what is left of these when those of vectors are dropped and the others lose their types. The lines
are found again in the text of the declarations exactly if there are any and no name holds a line
feed. Neither text depends on the order in which the names are bound. -/
theorem variables_by_lines (context : Context) :
    (∃ declared : List Declaration,
      (declared.map Declaration.binding).Perm
        (context.pairs.filter fun pair => pair.2.kind != .array) ∧
      declared.Pairwise (fun first second => first.name < second.name) ∧
      context.declarations = String.intercalate "\n" (declared.map Declaration.line) ∧
      context.assignments = String.intercalate "\n"
        ((declared.filter fun entry => entry.value.kind != .vector).map
          fun entry => withoutType entry.line) ∧
      (context.declarations.toList.splitOn '\n' =
          (declared.map Declaration.line).map String.toList ↔
        declared ≠ [] ∧ ∀ entry ∈ declared, Unbroken entry.name)) ∧
    ∀ other : Context, other.pairs.Perm context.pairs →
      other.declarations = context.declarations ∧ other.assignments = context.assignments := by
  constructor
  · refine ⟨context.declared, context.declared_perm, context.declared_ascends, ?_, ?_, ?_⟩
    · rw [lines_declared, declarations]
    · rw [numbers_declared, assignments]
    · rw [declarations, ← lines_declared, split_joined_iff, Ne, List.map_eq_nil_iff,
        List.forall_mem_map]
      simp only [Declaration.unbroken_iff]
  · intro other reordered
    have ordered : other.ordered = context.ordered :=
      Bindings.ordered_of_reordered other context reordered
    constructor
    · rw [declarations, declarations, variable_lines_eq, variable_lines_eq, ordered]
    · rw [assignments, assignments, variable_lines_eq, variable_lines_eq, ordered]

/-- Bindings of all kinds and the same in reverse order. -/
theorem variables_by_lines_of_reversed :
    let pairs : List (String × Value) := [("v", .vector [0.0, 0.0]), ("n", .int (-3)),
      ("d_x", .array [1.0]), ("h", .real 0.5), ("Z", .int 7)]
    let forth : Context := Bindings.ofList pairs
    let back : Context := Bindings.ofList pairs.reverse
    back.pairs.Perm forth.pairs ∧
      back.declarations =
        "cdef long Z = 7\ncdef double h = 0.5\ncdef long n = -3\ncdef double[2] v" ∧
      back.assignments = "Z = 7\nh = 0.5\nn = -3" := by
  intro pairs forth back
  have distinct : (pairs.map Prod.fst).Nodup := by decide
  have reordered : back.pairs.Perm forth.pairs := by
    rw [Bindings.of_list_pairs pairs distinct, Bindings.of_list_pairs pairs.reverse (by decide)]
    exact pairs.reverse_perm
  obtain ⟨_, same⟩ := variables_by_lines forth
  obtain ⟨declarations, assignments⟩ := same back reordered
  refine ⟨reordered, ?_, ?_⟩
  · rw [declarations]
    decide +kernel
  · rw [assignments]
    decide +kernel

end Context

end PairLoop
