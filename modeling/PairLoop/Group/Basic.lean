import PairLoop.Config
import PairLoop.Dependency.Closure
import PairLoop.Dependency.Schedule
import PairLoop.Equation
import PairLoop.Name.Underscored

/-!
Groups of equations that run together. A group is resolved against a library: the blocks that its
pair code calls for are found and ordered, and with them the default values and the arrays that
the generated code needs. An edit of the equations leaves the resolution as it was until the
group is updated, and an update that fails changes nothing.
-/

namespace PairLoop

/-- The ways in which the resolution of a group fails. -/
inductive GroupError
  | cycle (error : CycleError)
  /-- An equation takes a parameter in its pair code that nothing supplies. -/
  | unknownSymbol (equation symbol : String) (phase : Phase)
deriving DecidableEq

def GroupError.message : GroupError → String
  | .cycle error => error.message
  | .unknownSymbol equation symbol phase =>
    "Equation '" ++ equation ++ "' references unknown symbol '" ++ symbol ++ "' in its " ++
      phase.method ++ " phase"

/-- What the code of a group needs. -/
structure Resolution where
  /-- The blocks that are called for, each behind those it uses. -/
  precomputed : Bindings CodeBlock
  context : Context
  sourceArrays : NameSet
  destinationArrays : NameSet

namespace Resolution

/-- Whether a parameter of pair code is supplied by the particles, the kernel or the library. -/
def isKnown (library : Library) (name : String) : Bool :=
  Name.isSource name || Name.isDestination name || Name.isKernelToken name || library.contains name

/-- The names that the pair code of the equations takes, with the equation that takes them. -/
def pairArguments (receiver : String) (equations : List Equation) : List (Equation × String) :=
  equations.flatMap fun equation =>
    (equation.arguments .perPair receiver).map fun argument => (equation, argument)

/-- The first argument of pair code that nothing supplies. -/
def unknownArgument? (library : Library) (arguments : List (Equation × String)) :
    Option (Equation × String) :=
  arguments.find? fun argument => !isKnown library argument.2

/-- The blocks of a library under the given names, in their order. -/
def blocksOf (library : Library) (names : List String) : Bindings CodeBlock :=
  Bindings.ofList (names.filterMap fun name => (library.find? name).map fun block => (name, block))

def defaultsOf (blocks : Bindings CodeBlock) : Context :=
  Bindings.ofList (blocks.pairs.filterMap fun pair =>
    pair.2.defaultValue?.map fun value => (pair.1, value))

def mentioned (equations : List Equation) (blocks : Bindings CodeBlock) : NameSet :=
  NameSet.ofList (equations.flatMap Equation.parameters) ∪
    NameSet.unionAll (blocks.values.map CodeBlock.symbols)

def ofOrder (library : Library) (equations : List Equation) (order : List String) : Resolution :=
  let blocks := blocksOf library order
  let names := mentioned equations blocks
  ⟨blocks, defaultsOf blocks, Name.sourceArrays names, Name.destinationArrays names⟩

/-- The names of the blocks that the pair code calls for, each behind those it uses. Unknown names
are reported before cycles. -/
def order (library : Library) (config : Config) (equations : List Equation) :
    Except GroupError (List String) :=
  let arguments := pairArguments config.receiver equations
  match if config.strict then unknownArgument? library arguments else none with
  | some (equation, symbol) => .error (.unknownSymbol equation.displayName symbol .perPair)
  | none =>
    match library.schedule (library.closure (arguments.map Prod.snd)).toList with
    | .error error => .error (.cycle error)
    | .ok schedule => .ok schedule.order

def resolve (library : Library) (config : Config) (equations : List Equation) :
    Except GroupError Resolution :=
  (order library config equations).map (ofOrder library equations)

/-- The resolution of a group before its equations have been looked at. -/
def blank : Resolution := ⟨∅, ∅, ∅, ∅⟩

end Resolution

/-- Names the variables of equations: the display name with underscores, followed by the number of
earlier equations of the same class. The classes of the equations in front are given. -/
def nameVariables (earlier : List String) : List Equation → List Equation
  | [] => []
  | equation :: rest =>
    { equation with
      variableName :=
        Name.underscored equation.displayName ++ toString (earlier.count equation.className) } ::
      nameVariables (equation.className :: earlier) rest

structure Group where
  library : Library
  config : Config
  equations : List Equation
  resolution : Resolution

namespace Group

/-- The group with other equations, not yet resolved. -/
def withEquations (group : Group) (equations : List Equation) : Group :=
  { group with equations := equations }

def takeBlocks (order : List String) (group : Group) : Group :=
  { group with
    resolution := { group.resolution with
      precomputed := Resolution.blocksOf group.library order } }

def collectDefaults (group : Group) : Group :=
  { group with
    resolution := { group.resolution with
      context := Resolution.defaultsOf group.resolution.precomputed } }

def collectArrays (group : Group) : Group :=
  let names := Resolution.mentioned group.equations group.resolution.precomputed
  { group with
    resolution := { group.resolution with
      sourceArrays := Name.sourceArrays names
      destinationArrays := Name.destinationArrays names } }

def nameEquations (group : Group) : Group :=
  group.withEquations (nameVariables [] group.equations)

/-- Resolves the equations anew and writes the group field by field. A failure keeps what was
written before it. -/
def refresh : ExceptT GroupError (StateM Group) Unit := do
  let group ← get
  let order ← MonadExcept.ofExcept
    (Resolution.order group.library group.config group.equations)
  modify (takeBlocks order)
  modify collectDefaults
  modify collectArrays
  modify nameEquations

/-- The group after its equations have been resolved anew. -/
def update (group : Group) : Except GroupError Group :=
  match refresh group with
  | (.ok _, next) => .ok next
  | (.error error, _) => .error error

def assemble (library : Library) (config : Config) (equations : List Equation) :
    Except GroupError Group :=
  update ⟨library, config, equations, .blank⟩

end Group

end PairLoop
