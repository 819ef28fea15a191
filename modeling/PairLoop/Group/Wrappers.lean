import PairLoop.Group.Basic

/-!
The boundary to a generator of equation code. The code of a class is generated once, from the last
equation of the class; every equation has a declaration and an initializer of its own.
-/

namespace PairLoop

structure GenerateError where
  className : String
  detail : String
deriving DecidableEq

def GenerateError.message (error : GenerateError) : String :=
  "Failed to generate code for equation class '" ++ error.className ++ "': " ++ error.detail

/-- What can go wrong with a group: its resolution, which calls no generator, or a generator that the
group calls. -/
inductive GroupFailure
  | resolution (error : GroupError)
  | generator (error : GenerateError)
deriving DecidableEq

def GroupFailure.message : GroupFailure → String
  | .resolution error => error.message
  | .generator error => error.message

/-- A generator of the code of a class, which may keep a state between its calls. -/
abbrev Generator (State : Type) := Equation → State → Except GenerateError String × State

/-- Calls a generator for one equation after another until it fails. -/
def generateAll {State : Type} (generate : Generator State) :
    List Equation → State → Except GenerateError (List String) × State
  | [], state => (.ok [], state)
  | equation :: rest, state =>
    match generate equation state with
    | (.error error, next) => (.error error, next)
    | (.ok wrapper, next) =>
      match generateAll generate rest next with
      | (.error error, final) => (.error error, final)
      | (.ok wrappers, final) => (.ok (wrapper :: wrappers), final)

namespace Group

/-- The last equation of each class, in the order of the classes' first equations. -/
def representatives (equations : List Equation) : List Equation :=
  (Bindings.ofList (equations.map fun equation => (equation.className, equation))).values

/-- Names the variables anew and generates the code of every class. The first failure ends it; the
names are kept. -/
def wrappers {State : Type} (group : Group) (generate : Generator State) (state : State) :
    Group × Except GenerateError String × State :=
  let named := group.nameEquations
  let (result, final) := generateAll generate (representatives named.equations) state
  (named, result.map (String.intercalate "\n"), final)

/-- The wrappers as the group answers for them: a failure of the generator is one of the group. -/
def equationWrappers {State : Type} (group : Group) (generate : Generator State) (state : State) :
    Group × Except GroupFailure String × State :=
  let (named, outcome, final) := group.wrappers generate state
  (named, outcome.mapError .generator, final)

def equationDeclarations (group : Group) : String :=
  String.intercalate "\n" (group.equations.map fun equation =>
    "cdef public " ++ equation.displayName ++ " " ++ equation.variableName)

/-- The lines that set the variables that hold the equations, from a list in the same order. -/
def equationInitializers (group : Group) : String :=
  String.intercalate "\n" (group.equations.mapIdx fun position equation =>
    group.config.receiver ++ "." ++ equation.variableName ++ " = " ++ equation.displayName ++
      "(equations[" ++ toString position ++ "])")

end Group

end PairLoop
