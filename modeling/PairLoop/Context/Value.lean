/-!
The values that names are bound to when a fragment is evaluated, and the ways in which an
evaluation can fail.
-/

namespace PairLoop

/-- A value. A vector has a fixed number of components, such as a displacement; an array holds
one number for each particle. -/
inductive Value
  | int (number : Int64)
  | real (number : Float)
  | vector (components : List Float)
  | array (elements : List Float)

inductive Kind
  | int
  | real
  | vector
  | array
deriving DecidableEq

def Kind.text : Kind → String
  | .int => "int"
  | .real => "real"
  | .vector => "vector"
  | .array => "array"

namespace Value

def kind : Value → Kind
  | .int _ => .int
  | .real _ => .real
  | .vector _ => .vector
  | .array _ => .array

/-- The array that stands in for particle data which a fragment names but nobody supplied. -/
def placeholder : Value := .array [0.0, 0.0]

def equalNumbers (first second : List Float) : Bool :=
  first.length == second.length && (first.zip second).all fun pair => pair.1 == pair.2

/-- Whether two values are of one kind and hold equal numbers. What is not a number equals
nothing, and the two zeros are equal. -/
def equal : Value → Value → Bool
  | .int first, .int second => first == second
  | .real first, .real second => first == second
  | .vector first, .vector second => equalNumbers first second
  | .array first, .array second => equalNumbers first second
  | _, _ => false

end Value

inductive Expected
  | index
  | real
  | vector
  | array
deriving DecidableEq

def Expected.text : Expected → String
  | .index => "non-negative int"
  | .real => "real"
  | .vector => "vector"
  | .array => "array"

inductive EvalError
  | missingBinding (name : String)
  | typeMismatch (name : String) (expected : Expected) (found : Kind)
  | indexOutOfBounds (name : String) (index length : Nat)
  | notEvaluable (block : String)
deriving DecidableEq

def EvalError.message : EvalError → String
  | .missingBinding name => "No binding named '" ++ name ++ "' in the evaluation context"
  | .typeMismatch name expected found =>
    "Binding '" ++ name ++ "' has type " ++ found.text ++ ", expected " ++ expected.text
  | .indexOutOfBounds name index length =>
    "Index " ++ toString index ++ " out of bounds for array '" ++ name ++ "' of length " ++
      toString length
  | .notEvaluable block => "Code block '" ++ block ++ "' has no direct evaluator"

end PairLoop
