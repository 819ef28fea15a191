import PairLoop.Bindings
import PairLoop.Context.Value

/-!
Contexts: the named values that a fragment is evaluated on, in the order of their first binding.
The accessors look a name up as a value of one kind and say what is wrong when they cannot.
-/

namespace PairLoop

/-- Named values in the order of their first binding. -/
abbrev Context := Bindings Value

namespace Context

def lookup (context : Context) (name : String) : Except EvalError Value :=
  match context.find? name with
  | some value => .ok value
  | none => .error (.missingBinding name)

def index (context : Context) (name : String) : Except EvalError Nat := do
  match ← context.lookup name with
  | .int number =>
    if 0 ≤ number.toInt then .ok number.toInt.toNat
    else .error (.typeMismatch name .index .int)
  | other => .error (.typeMismatch name .index other.kind)

/-- A name as a number. An integer is rounded to the nearest double. -/
def real (context : Context) (name : String) : Except EvalError Float := do
  match ← context.lookup name with
  | .real number => .ok number
  | .int number => .ok (Float.ofInt number.toInt)
  | other => .error (.typeMismatch name .real other.kind)

def vector (context : Context) (name : String) : Except EvalError (List Float) := do
  match ← context.lookup name with
  | .vector components => .ok components
  | other => .error (.typeMismatch name .vector other.kind)

/-- The element of the array `name` at the index bound to `indexName`. The index is looked up
first. -/
def element (context : Context) (name indexName : String) : Except EvalError Float := do
  let index ← context.index indexName
  match ← context.lookup name with
  | .array elements =>
    match elements[index]? with
    | some number => .ok number
    | none => .error (.indexOutOfBounds name index elements.length)
  | other => .error (.typeMismatch name .array other.kind)

def setReal (context : Context) (name : String) (number : Float) : Context :=
  context.insert name (.real number)

def setVector (context : Context) (name : String) (components : List Float) : Context :=
  context.insert name (.vector components)

/-- Whether two contexts bind the same names to equal values, in whatever order. -/
def equal (first second : Context) : Bool :=
  first.size == second.size && first.pairs.all fun pair =>
    match second.find? pair.1 with
    | some value => pair.2.equal value
    | none => false

end Context

end PairLoop
