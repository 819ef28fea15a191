import Mathlib.Data.List.Basic
import PairLoop.Group.Wrappers
import PairLoop.Proofs.Group.Update

/-!
When the variables of a group's equations have different names. A name is a display name with
underscores and a number counted within a class, with nothing between them, so two classes can meet
in one name, and digits at the end of a display name can be taken for those of a number.
-/

namespace PairLoop

/-- What the variable of an equation is named after: the display name with underscores, and the
number of earlier equations of the class. -/
structure Label where
  className : String
  base : String
  number : Nat
deriving DecidableEq

namespace Label

def text (label : Label) : String := label.base ++ toString label.number

/-- The second base is the first and some digits more, with which the first number begins and
which the second number leaves out. -/
def Continues (first second : Label) : Prop :=
  ∃ digits : String, first.base ++ digits = second.base ∧
    toString first.number = digits ++ toString second.number

/-- Neither label continues the other. -/
def Apart (first second : Label) : Prop := ¬ Continues first second ∧ ¬ Continues second first

/-- Both labels are of one class under one display name. -/
def Alike (first second : Label) : Prop :=
  first.className = second.className ∧ first.base = second.base

theorem text_eq_of_continues (first second : Label) (continues : Continues first second) :
    first.text = second.text := by
  rcases continues with ⟨digits, bases, numbers⟩
  rw [text, text, numbers, ← bases, String.append_assoc]

theorem continues_of_append (first second : Label) (more : List Char)
    (bases : second.base.toList = first.base.toList ++ more)
    (numbers : (toString first.number).toList = more ++ (toString second.number).toList) :
    Continues first second := by
  refine ⟨String.ofList more, ?_, ?_⟩
  · apply String.toList_inj.1
    rw [String.toList_append, String.toList_ofList, bases]
  · apply String.toList_inj.1
    rw [String.toList_append, String.toList_ofList, numbers]

theorem text_eq_iff (first second : Label) :
    first.text = second.text ↔ Continues first second ∨ Continues second first := by
  constructor
  · intro same
    have lists : first.base.toList ++ (toString first.number).toList =
        second.base.toList ++ (toString second.number).toList := by
      rw [← String.toList_append, ← String.toList_append]
      exact congrArg String.toList same
    rcases List.append_eq_append_iff.1 lists with ⟨more, bases, numbers⟩ | ⟨more, bases, numbers⟩
    · exact .inl (continues_of_append first second more bases numbers)
    · exact .inr (continues_of_append second first more bases numbers)
  · intro either
    rcases either with forward | backward
    · exact text_eq_of_continues first second forward
    · exact (text_eq_of_continues second first backward).symm

theorem number_eq_of_text_eq (first second : Label) (bases : first.base = second.base)
    (same : first.text = second.text) : first.number = second.number := by
  unfold text at same
  have texts := congrArg String.toList same
  rw [bases, String.toList_append, String.toList_append] at texts
  have digits : Nat.toDigits 10 first.number = Nat.toDigits 10 second.number := by
    simpa [Nat.toString_eq_ofList_toDigits] using List.append_cancel_left texts
  have read := congrArg (fun digits => Nat.ofDigitChars 10 digits 0) digits
  simpa using read

/-- A base that does not end in a digit continues no other. -/
theorem base_eq_of_continues (first second : Label)
    (plain : ∀ char ∈ second.base.toList.getLast?, char.isDigit = false)
    (continues : Continues first second) : first.base = second.base := by
  rcases continues with ⟨digits, bases, numbers⟩
  have nothing : digits.toList = [] := by
    by_contra more
    have ends : second.base.toList.getLast? = some (digits.toList.getLast more) := by
      rw [← bases, String.toList_append, List.getLast?_append, List.getLast?_eq_some_getLast more]
      rfl
    have written : digits.toList.getLast more ∈ Nat.toDigits 10 first.number := by
      rw [← Nat.toList_repr, ← Nat.toString_eq_repr, numbers, String.toList_append]
      exact List.mem_append_left _ (List.getLast_mem more)
    have digit := Nat.isDigit_of_mem_toDigits (by decide) (by decide) written
    rw [plain _ ends] at digit
    exact Bool.noConfusion digit
  rw [← bases, String.toList_eq_nil_iff.1 nothing, String.append_empty]

end Label

/-- The labels of equations, where equations of the given classes stand in front of them. -/
def labelsBehind (earlier : List String) (equations : List Equation) : List Label :=
  equations.mapIdx fun position equation =>
    ⟨equation.className, Name.underscored equation.displayName,
      (earlier ++ (equations.take position).map Equation.className).count equation.className⟩

/-- The labels of a group's equations. -/
def labels (equations : List Equation) : List Label := labelsBehind [] equations

/-- An equation counts for those behind it as if its class had been given. -/
theorem count_behind_cons (earlier : List String) (equation : Equation) (rest : List Equation)
    (position : Nat) (className : String) :
    (earlier ++ ((equation :: rest).take (position + 1)).map Equation.className).count className =
      ((equation.className :: earlier) ++
        (rest.take position).map Equation.className).count className := by
  rw [List.take_succ_cons, List.map_cons]
  exact List.perm_middle.count_eq className

theorem labels_behind_cons (earlier : List String) (equation : Equation) (rest : List Equation) :
    labelsBehind earlier (equation :: rest) =
      ⟨equation.className, Name.underscored equation.displayName,
        earlier.count equation.className⟩ :: labelsBehind (equation.className :: earlier) rest := by
  unfold labelsBehind
  rw [List.mapIdx_cons]
  simp only [count_behind_cons, List.take_zero, List.map_nil, List.append_nil]

/-- Every equation is named by its position and is else as it was. -/
theorem name_variables_eq (earlier : List String) (equations : List Equation) :
    nameVariables earlier equations = equations.mapIdx fun position equation =>
      { equation with
        variableName := Name.underscored equation.displayName ++
          toString ((earlier ++ (equations.take position).map Equation.className).count
            equation.className) } := by
  induction equations generalizing earlier with
  | nil => rfl
  | cons equation rest induction =>
    rw [nameVariables, induction, List.mapIdx_cons]
    simp only [count_behind_cons, List.take_zero, List.map_nil, List.append_nil]

theorem variable_names_eq (earlier : List String) (equations : List Equation) :
    (nameVariables earlier equations).map Equation.variableName =
      (labelsBehind earlier equations).map Label.text := by
  rw [name_variables_eq, labelsBehind]
  apply List.ext_getElem
  · simp only [List.length_map, List.length_mapIdx]
  · intro position _ _
    simp only [List.getElem_map, List.getElem_mapIdx, Label.text]

theorem count_le_number (earlier : List String) (equations : List Equation) (label : Label)
    (member : label ∈ labelsBehind earlier equations) :
    earlier.count label.className ≤ label.number := by
  obtain ⟨position, bound, rfl⟩ := List.mem_mapIdx.1 member
  rw [List.count_append]
  exact Nat.le_add_right _ _

theorem exists_of_mem_labels (equations : List Equation) (label : Label)
    (member : label ∈ labels equations) :
    ∃ equation ∈ equations, equation.className = label.className ∧
      Name.underscored equation.displayName = label.base := by
  obtain ⟨position, bound, rfl⟩ := List.mem_mapIdx.1 member
  exact ⟨equations[position], List.getElem_mem bound, rfl, rfl⟩

/-- Within a class the numbers ascend. -/
theorem numbers_ascend (earlier : List String) (equations : List Equation) :
    (labelsBehind earlier equations).Pairwise fun first second =>
      first.className = second.className → first.number < second.number := by
  induction equations generalizing earlier with
  | nil => exact List.Pairwise.nil
  | cons equation rest induction =>
    rw [labels_behind_cons]
    apply List.Pairwise.cons _ (induction (equation.className :: earlier))
    intro label member classes
    have counted := count_le_number _ rest label member
    rw [← classes, List.count_cons_self] at counted
    exact counted

/-- Variables have different names exactly if any two equations are of one class under one display
name or have labels of which neither continues the other. -/
theorem names_nodup_iff (equations : List Equation) :
    ((nameVariables [] equations).map Equation.variableName).Nodup ↔
      (labels equations).Pairwise fun first second =>
        Label.Alike first second ∨ Label.Apart first second := by
  rw [variable_names_eq, List.Nodup, List.pairwise_map]
  constructor
  · intro different
    apply different.imp
    intro first second texts
    rw [Ne, Label.text_eq_iff, not_or] at texts
    exact .inr texts
  · intro separate
    apply separate.imp₂ _ (numbers_ascend [] equations)
    intro first second either ascend
    rcases either with alike | apart
    · intro texts
      have numbers := Label.number_eq_of_text_eq first second alike.2 texts
      exact absurd numbers (Nat.ne_of_lt (ascend alike.1))
    · rw [Ne, Label.text_eq_iff, not_or]
      exact apart

/-- Variables have different names if no display name ends in a digit and none is shared by two
classes, in the spelling with underscores. -/
theorem names_nodup_of_plain (equations : List Equation)
    (plain : ∀ equation ∈ equations,
      ∀ char ∈ (Name.underscored equation.displayName).toList.getLast?, char.isDigit = false)
    (separate : ∀ first ∈ equations, ∀ second ∈ equations,
      Name.underscored first.displayName = Name.underscored second.displayName →
        first.className = second.className) :
    ((nameVariables [] equations).map Equation.variableName).Nodup := by
  rw [names_nodup_iff]
  apply List.pairwise_of_forall_mem_list
  intro first firstMember second secondMember
  obtain ⟨equation, listed, equationClass, equationBase⟩ :=
    exists_of_mem_labels equations first firstMember
  obtain ⟨other, otherListed, otherClass, otherBase⟩ :=
    exists_of_mem_labels equations second secondMember
  by_cases bases : first.base = second.base
  · have classes : first.className = second.className := by
      rw [← equationClass, ← otherClass]
      rw [← equationBase, ← otherBase] at bases
      exact separate equation listed other otherListed bases
    exact .inl ⟨classes, bases⟩
  · refine .inr ⟨?_, ?_⟩
    · intro continues
      have ends := plain other otherListed
      rw [otherBase] at ends
      exact bases (Label.base_eq_of_continues first second ends continues)
    · intro continues
      have ends := plain equation listed
      rw [equationBase] at ends
      exact bases (Label.base_eq_of_continues second first ends continues).symm

namespace Group

/-- After an update that succeeds and after wrappers have been generated, the variables have
different names exactly if no label continues that of an equation of another class or under another
display name. -/
theorem variable_names_nodup_iff {State : Type} (group : Group) (generate : Generator State)
    (state : State) :
    (∀ next, refresh group = (.ok (), next) →
      ((next.equations.map Equation.variableName).Nodup ↔
        (labels group.equations).Pairwise fun first second =>
          Label.Alike first second ∨ Label.Apart first second)) ∧
    (((group.wrappers generate state).1.equations.map Equation.variableName).Nodup ↔
      (labels group.equations).Pairwise fun first second =>
        Label.Alike first second ∨ Label.Apart first second) := by
  constructor
  · intro next updated
    obtain ⟨resolution, _, rfl⟩ := settled_of_refresh_ok group next updated
    exact names_nodup_iff group.equations
  · exact names_nodup_iff group.equations

/-- Two classes whose names differ in capitals only share one variable. -/
theorem variable_shared_by_two_classes :
    let equations := [Equation.ofClass "TaitEOS" "fluid" [], Equation.ofClass "TaitEos" "fluid" []]
    ∃ group, assemble ∅ .standard equations = .ok group ∧
      group.equations.map Equation.variableName = ["tait_eos0", "tait_eos0"] ∧
      ¬ (group.equations.map Equation.variableName).Nodup := by
  intro equations
  have evaluated : (assemble ∅ .standard equations).map
      (fun group => group.equations.map Equation.variableName) =
        .ok ["tait_eos0", "tait_eos0"] := by
    decide +kernel
  obtain ⟨group, assembled, names⟩ := (except_map_eq_ok_iff ..).1 evaluated
  refine ⟨group, assembled, names, ?_⟩
  rw [names]
  decide

end Group

end PairLoop
