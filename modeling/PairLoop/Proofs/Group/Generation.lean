import Mathlib.Data.List.Induction
import PairLoop.Proofs.Group.VariableNames

/-!
What a generator of equation code is called on. It is called once for each class, in the order in
which the classes come up, on the last equation of the class, and the first failure is the end.
The calls are seen through a generator that records them and answers as the given one does.
-/

namespace PairLoop

section Classes

/-- The classes of equations, each once, in the order of their first equations. -/
def classes (equations : List Equation) : List String :=
  (equations.map Equation.className).eraseDups

/-- The last equation of a class. -/
def lastOfClass? (equations : List Equation) (className : String) : Option Equation :=
  (equations.filter fun equation => equation.className == className).getLast?

theorem mem_classes_iff (equations : List Equation) (className : String) :
    className ∈ classes equations ↔ className ∈ equations.map Equation.className :=
  List.mem_eraseDups

/-- A class comes up with an equation that no equation in front belongs to. -/
theorem classes_append (equations : List Equation) (equation : Equation) :
    classes (equations ++ [equation]) =
      if equation.className ∈ classes equations then classes equations
      else classes equations ++ [equation.className] := by
  simp only [mem_classes_iff]
  unfold classes
  rw [List.map_append, List.eraseDups_append, List.map_cons, List.map_nil]
  generalize equations.map Equation.className = names
  split
  · next known => simp [List.removeAll, known]
  · next new => simp [List.removeAll, new, List.eraseDups_cons]

theorem last_of_class_append (equations : List Equation) (equation : Equation)
    (className : String) :
    lastOfClass? (equations ++ [equation]) className =
      if className = equation.className then some equation
      else lastOfClass? equations className := by
  unfold lastOfClass?
  rw [List.filter_append, List.getLast?_append]
  split
  · next same => simp [same]
  · next different => simp [Ne.symm different]

/-- A class keeps its place and takes the equation that comes last. -/
theorem representatives_bound (equations : List Equation) :
    let bound := Bindings.ofList (equations.map fun equation => (equation.className, equation))
    bound.names = classes equations ∧
      ∀ className, bound.find? className = lastOfClass? equations className := by
  induction equations using List.reverseRecOn with
  | nil => exact ⟨rfl, fun _ => rfl⟩
  | append_singleton equations equation induction =>
    obtain ⟨names, found⟩ := induction
    have step : Bindings.ofList
        ((equations ++ [equation]).map fun equation => (equation.className, equation)) =
          (Bindings.ofList (equations.map fun equation =>
            (equation.className, equation))).insert equation.className equation := by
      rw [List.map_append]
      exact Bindings.insert_all_append ∅ _ _
    dsimp only
    rw [step]
    constructor
    · rw [Bindings.insert_names, names, classes_append]
    · intro className
      rw [Bindings.insert_find, found, last_of_class_append]

theorem representatives_eq (equations : List Equation) :
    (Group.representatives equations).map some =
      (classes equations).map (lastOfClass? equations) := by
  obtain ⟨names, found⟩ := representatives_bound equations
  unfold Group.representatives
  rw [Bindings.values_found, names]
  apply List.map_congr_left
  intro className _
  exact found className

example :
    let force := Equation.ofClass "FooEquation" "fluid" ["fluid"]
    let wall := Equation.ofClass "BarEquation" "solid" []
    (Group.representatives (nameVariables [] [force, wall, force])).map Equation.variableName =
      ["foo_equation1", "bar_equation0"] := by
  decide +kernel

/-- Names of variables make no difference to the classes. -/
theorem classes_name_variables (equations : List Equation) :
    classes (nameVariables [] equations) = classes equations := by
  have unnamed : ∀ equations : List Equation,
      classes (equations.map Equation.unnamed) = classes equations := by
    intro equations
    unfold classes
    rw [List.map_map]
    rfl
  rw [← unnamed (nameVariables [] equations), unnamed_name_variables, unnamed]

end Classes

namespace Generator

/-- A call of a generator: the equation that it is called on, and the answer. -/
abbrev Call := Equation × Except GenerateError String

variable {State : Type} (generate : Generator State)

/-- The generator with a record of its calls. -/
def recording : Generator (State × List Call) := fun equation recorded =>
  let (answer, next) := generate equation recorded.1
  (answer, next, recorded.2 ++ [(equation, answer)])

/-- Calls one after another, each in the state that the one before has left. -/
inductive Answers : State → List Call → State → Prop
  | nil (state : State) : Answers state [] state
  | cons {state next final : State} {equation : Equation} {answer : Except GenerateError String}
      {rest : List Call} (called : generate equation state = (answer, next))
      (later : Answers next rest final) : Answers state ((equation, answer) :: rest) final

/-- What comes of calls that are due: all are made and give an output, or they are made as far as
the first that fails. -/
inductive Outcome (due : List Equation) (made : List Call) :
    Except GenerateError (List String) → Prop
  | completed (outputs : List String) (called : made.map Prod.fst = due)
      (answered : made.map Prod.snd = outputs.map .ok) : Outcome due made (.ok outputs)
  | failed (done rest : List Equation) (failing : Equation) (outputs : List String)
      (error : GenerateError) (split : due = done ++ failing :: rest)
      (called : made.map Prod.fst = done ++ [failing])
      (answered : made.map Prod.snd = outputs.map .ok ++ [.error error]) :
      Outcome due made (.error error)

theorem Outcome.cons {due : List Equation} {made : List Call}
    {result : Except GenerateError (List String)} (outcome : Outcome due made result)
    (equation : Equation) (output : String) :
    Outcome (equation :: due) ((equation, .ok output) :: made) (result.map (output :: ·)) := by
  cases outcome with
  | completed outputs called answered =>
    apply Outcome.completed (output :: outputs)
    · rw [List.map_cons, called]
    · rw [List.map_cons, answered, List.map_cons]
  | failed done rest failing outputs error split called answered =>
    apply Outcome.failed (equation :: done) rest failing (output :: outputs) error
    · rw [split, List.cons_append]
    · rw [List.map_cons, called, List.cons_append]
    · rw [List.map_cons, answered, List.map_cons, List.cons_append]

theorem generate_all_of_error (equation : Equation) (rest : List Equation) (state next : State)
    (error : GenerateError) (called : generate equation state = (.error error, next)) :
    generateAll generate (equation :: rest) state = (.error error, next) := by
  rw [generateAll, called]

theorem generate_all_of_ok (equation : Equation) (rest : List Equation) (state next : State)
    (output : String) (called : generate equation state = (.ok output, next)) :
    generateAll generate (equation :: rest) state =
      ((generateAll generate rest next).1.map (output :: ·),
        (generateAll generate rest next).2) := by
  simp only [generateAll, called]
  rcases generateAll generate rest next with ⟨error | outputs, final⟩
  · rfl
  · rfl

theorem recording_eq (equation : Equation) (state next : State) (before : List Call)
    (answer : Except GenerateError String) (called : generate equation state = (answer, next)) :
    recording generate equation (state, before) = (answer, next, before ++ [(equation, answer)]) := by
  unfold recording
  rw [called]

/-- The calls that are made, whether they are recorded or not. -/
theorem exists_calls (due : List Equation) (state : State) :
    ∃ made, Answers generate state made (generateAll generate due state).2 ∧
      Outcome due made (generateAll generate due state).1 ∧
      ∀ before, generateAll (recording generate) due (state, before) =
        ((generateAll generate due state).1, (generateAll generate due state).2,
          before ++ made) := by
  induction due generalizing state with
  | nil => exact ⟨[], .nil state, .completed [] rfl rfl, fun before => by simp [generateAll]⟩
  | cons equation rest induction =>
    rcases called : generate equation state with ⟨error | output, next⟩
    · rw [generate_all_of_error generate equation rest state next error called]
      refine ⟨[(equation, .error error)], .cons called (.nil next), ?_, ?_⟩
      · exact .failed [] rest equation [] error rfl rfl rfl
      · intro before
        exact generate_all_of_error _ _ _ _ _ error
          (recording_eq generate equation state next before _ called)
    · rw [generate_all_of_ok generate equation rest state next output called]
      obtain ⟨made, answers, outcome, recorded⟩ := induction next
      refine ⟨(equation, .ok output) :: made, .cons called answers, ?_, ?_⟩
      · exact outcome.cons equation output
      · intro before
        rw [generate_all_of_ok _ _ _ _ _ output
          (recording_eq generate equation state next before _ called), recorded,
          List.append_assoc, List.singleton_append]

end Generator

/-- The generation of wrappers names every variable after the display name of its equation and the
number of earlier equations of the class, and changes nothing else in the group. Then the generator
is called on the last equation of every class, as it is named now, in the order in which the
classes come up. The first error is the outcome, as a failure of the generator, and no call follows
it; without one the outcome is made of the outputs, line after line. -/
theorem wrappers_generated {State : Type} (group : Group) (generate : Generator State)
    (state : State) :
    let (next, outcome, final) := group.equationWrappers generate state
    next = group.withEquations (group.equations.mapIdx fun position equation =>
      { equation with
        variableName := Name.underscored equation.displayName ++
          toString (((group.equations.take position).map Equation.className).count
            equation.className) }) ∧
    ∃ due made result,
      due.map some = (classes group.equations).map (lastOfClass? next.equations) ∧
      group.equationWrappers generate.recording (state, []) = (next, outcome, final, made) ∧
      generate.Answers state made final ∧
      Generator.Outcome due made result ∧
      outcome = (result.map (String.intercalate "\n")).mapError GroupFailure.generator := by
  dsimp only [Group.equationWrappers, Group.wrappers]
  refine ⟨?_, Group.representatives group.nameEquations.equations, ?_⟩
  · unfold Group.nameEquations
    rw [name_variables_eq]
    rfl
  obtain ⟨made, answers, outcome, recorded⟩ := generate.exists_calls
    (Group.representatives group.nameEquations.equations) state
  refine ⟨made, _, ?_, ?_, answers, outcome, rfl⟩
  · have named : classes group.nameEquations.equations = classes group.equations :=
      classes_name_variables group.equations
    rw [representatives_eq, named]
  · rw [recorded, List.nil_append]

end PairLoop
