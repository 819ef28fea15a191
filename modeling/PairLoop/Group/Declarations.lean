import PairLoop.Decimal.Literal
import PairLoop.Group.Basic

/-!
The variables of the generated code. Numbers are declared with their values, vectors with their
lengths; particle arrays are passed in and have declarations of their own.
-/

namespace PairLoop

def declaration? (name : String) : Value → Option String
  | .int number => some ("cdef long " ++ name ++ " = " ++ toString number.toInt)
  | .real number => some ("cdef double " ++ name ++ " = " ++ Decimal.literal number)
  | .vector components => some ("cdef double[" ++ toString components.length ++ "] " ++ name)
  | .array _ => none

def assignment? (name : String) : Value → Option String
  | .int number => some (name ++ " = " ++ toString number.toInt)
  | .real number => some (name ++ " = " ++ Decimal.literal number)
  | .vector _ => none
  | .array _ => none

namespace Context

/-- One line for each binding that has one, in ascending order of names. -/
def variableLines (line? : String → Value → Option String) (context : Context) : List String :=
  (NameSet.ofList context.names).toList.filterMap fun name => (context.find? name).bind (line? name)

def declarations (context : Context) : String :=
  String.intercalate "\n" (context.variableLines declaration?)

def assignments (context : Context) : String :=
  String.intercalate "\n" (context.variableLines assignment?)

end Context

/-- The declarations of particle arrays, in ascending order and each once. -/
def arrayDeclarations (names : List String) : String :=
  String.intercalate "\n" ((NameSet.ofList names).toList.map fun name => "cdef double* " ++ name)

namespace Group

/-- Whether a name that a fragment uses is a variable: not of the particles, no token and no
function. -/
def isVariable (name : String) : Bool :=
  !Name.isSource name && !Name.isDestination name && !Name.isKernelToken name &&
    !Name.isIndex name && !Name.isMathFunction name

def variableNames (group : Group) : NameSet :=
  (NameSet.unionAll (group.resolution.precomputed.values.map CodeBlock.symbols)).filter isVariable

end Group

end PairLoop
