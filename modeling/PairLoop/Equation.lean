/-!
Equations: contributions to the change of a particle, with code for up to three phases of a time
step. Of the code only the parameters are known here: they tell by name what it needs.
-/

namespace PairLoop

inductive Phase
  /-- Once, before any pair is visited. -/
  | setup
  /-- Once for each source particle. -/
  | perPair
  /-- Once, after all pairs. -/
  | finalize
deriving DecidableEq

namespace Phase

def all : List Phase := [.setup, .perPair, .finalize]

def method : Phase → String
  | .setup => "initialize"
  | .perPair => "loop"
  | .finalize => "post_loop"

end Phase

structure Behavior where
  parameters : List String
deriving DecidableEq

def Behavior.arguments (behavior : Behavior) (receiver : String) : List String :=
  behavior.parameters.filter fun parameter => parameter != receiver

/-- An equation of a class, acting on the particles of one set. -/
structure Equation where
  className : String
  displayName : String
  destination : String
  /-- The sets of source particles. Without any, the equation needs no neighbors. -/
  sources : List String
  setup : Option Behavior
  perPair : Option Behavior
  finalize : Option Behavior
  /-- The variable of the generated code that holds the equation; empty until it is named. -/
  variableName : String
deriving DecidableEq

namespace Equation

def ofClass (className destination : String) (sources : List String) : Equation :=
  ⟨className, className, destination, sources, none, none, none, ""⟩

def named (equation : Equation) (name : String) : Equation := { equation with displayName := name }

def withBehavior (equation : Equation) (phase : Phase) (parameters : List String) : Equation :=
  match phase with
  | .setup => { equation with setup := some ⟨parameters⟩ }
  | .perPair => { equation with perPair := some ⟨parameters⟩ }
  | .finalize => { equation with finalize := some ⟨parameters⟩ }

def behavior? (equation : Equation) : Phase → Option Behavior
  | .setup => equation.setup
  | .perPair => equation.perPair
  | .finalize => equation.finalize

def hasBehavior (equation : Equation) (phase : Phase) : Bool := (equation.behavior? phase).isSome

def behaviors (equation : Equation) : List (Phase × Behavior) :=
  Phase.all.filterMap fun phase => (equation.behavior? phase).map fun behavior => (phase, behavior)

def parameters (equation : Equation) : List String :=
  equation.behaviors.flatMap fun pair => pair.2.parameters

def arguments (equation : Equation) (phase : Phase) (receiver : String) : List String :=
  match equation.behavior? phase with
  | some behavior => behavior.arguments receiver
  | none => []

def needsNeighbors (equation : Equation) : Bool := !equation.sources.isEmpty

end Equation

end PairLoop
