import PairLoop.Group.Basic
import PairLoop.Kernel
import PairLoop.Unicode.Blank

/-!
The code of a group for each phase. Pair code begins with the fragments of the resolved blocks, in
order and trimmed, and an empty line. Then every equation with code for the phase is called, and
the text ends with a line feed.
-/

namespace PairLoop.Group

def hasCode (group : Group) (phase : Phase) : Bool :=
  group.equations.any fun equation => equation.hasBehavior phase

def stub (receiver : String) (equation : Equation) (phase : Phase) (behavior : Behavior) :
    List Char :=
  let arguments := (behavior.arguments receiver).map String.toList
  receiver.toList ++ '.' :: equation.variableName.toList ++ '.' :: phase.method.toList ++
    '(' :: [',', ' '].intercalate arguments ++ [')']

def stubs (group : Group) (phase : Phase) : List (List Char) :=
  group.equations.filterMap fun equation =>
    (equation.behavior? phase).map (stub group.config.receiver equation phase)

def fragments (group : Group) : List (List Char) :=
  group.resolution.precomputed.values.map fun block => Unicode.trim block.code.toList

/-- Lines with an empty line behind them, unless there are none. -/
def paragraph (lines : List (List Char)) : List (List Char) :=
  if lines.isEmpty then [] else lines ++ [[]]

/-- The parts of a phase's code, between which line feeds stand. -/
def codeParts (group : Group) (phase : Phase) : List (List Char) :=
  (if phase = .perPair then paragraph group.fragments else []) ++ paragraph (group.stubs phase)

/-- The code of a phase, in which the kernel's tokens are filled in if a kernel is given. -/
def code (group : Group) (phase : Phase) (kernel : Option Kernel) : String :=
  Kernel.substitute kernel group.config (String.ofList (['\n'].intercalate (group.codeParts phase)))

end PairLoop.Group
