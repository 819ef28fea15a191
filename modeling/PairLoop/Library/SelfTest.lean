import PairLoop.Dependency.Schedule

/-!
The self test of a library: every block that can be evaluated is evaluated once, level by level of
a schedule, so that the values it uses are there before it. A block sees its own default values,
overlaid with the given ones and these with the values that the blocks it names have produced. The
blocks of a level see the values of the levels before it only, so they may run side by side.
-/

namespace PairLoop

/-- What a test has found so far: the values that blocks gave their own quantities, and the outcomes
of the evaluations. -/
structure Trial where
  produced : Bindings Value
  outcomes : Bindings (Except EvalError Context)

namespace Trial

def initial : Trial := ⟨∅, ∅⟩

/-- The value that an evaluation gave the quantity of a name. -/
def valueOf? (name : String) : Except EvalError Context → Option Value
  | .ok context => context.find? name
  | .error _ => none

def record (trial : Trial) (answer : String × Except EvalError Context) : Trial where
  produced :=
    match valueOf? answer.1 answer.2 with
    | some value => trial.produced.insert answer.1 value
    | none => trial.produced
  outcomes := trial.outcomes.insert answer.1 answer.2

end Trial

namespace Library

/-- The given values overlaid with the values produced for the names that a block uses, itself
excepted. -/
def inputsOf (given : Context) (produced : Bindings Value) (name : String) (symbols : NameSet) :
    Context :=
  (symbols.erase name).toList.foldl
    (fun context used =>
      match produced.find? used with
      | some value => context.insert used value
      | none => context)
    given

/-- Evaluates the block of a name, unless there is none or it cannot be evaluated. -/
def attempt? (library : Library) (given : Context) (produced : Bindings Value) (name : String) :
    Option (String × Except EvalError Context) :=
  match library.find? name with
  | some block =>
    if block.isEvaluable then
      some (name, block.evaluate (inputsOf given produced name block.symbols))
    else none
  | none => none

/-- Evaluates the blocks of a level on what is known before it, and then records the outcomes. -/
def testLevel (library : Library) (given : Context) (trial : Trial) (level : List String) : Trial :=
  (level.filterMap (library.attempt? given trial.produced)).foldl Trial.record trial

/-- Evaluates all blocks on the given values. The outcomes come in the order of registration. -/
def selfTest (library : Library) (given : Context) :
    Except CycleError (List (String × Except EvalError Context)) :=
  match library.schedule library.names with
  | .error error => .error error
  | .ok schedule =>
    let trial := schedule.levels.foldl (library.testLevel given) .initial
    .ok (library.names.filterMap fun name =>
      (trial.outcomes.find? name).map fun outcome => (name, outcome))

end Library

end PairLoop
