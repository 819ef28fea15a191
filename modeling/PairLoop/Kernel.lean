import PairLoop.Config
import PairLoop.Name.Class
import PairLoop.Text.Replace

/-!
Kernels. Fragments call the kernel and its gradient through two tokens, which are replaced by calls
of an object's methods once it is known which object holds the kernel.
-/

namespace PairLoop

structure Kernel where
  object : String
deriving DecidableEq

namespace Kernel

def method (kernel : Kernel) (name : String) : List Char :=
  kernel.object.toList ++ '.' :: name.toList

/-- Replaces the gradient's token wherever its letters stand, and in the result the kernel's. -/
def fill (kernel : Kernel) (config : Config) (code : List Char) : List Char :=
  Text.replaceAll Name.kernelToken.toList (kernel.method config.kernelMethod)
    (Text.replaceAll Name.gradientToken.toList (kernel.method config.gradientMethod) code)

/-- Fills the tokens of a text in for a kernel; without one they stay as they are. -/
def fillOptional (config : Config) (code : List Char) : Option Kernel → List Char
  | none => code
  | some kernel => kernel.fill config code

/-- Fills the tokens of a string in for a kernel; without one they stay as they are. -/
def substitute (kernel : Option Kernel) (config : Config) (code : String) : String :=
  String.ofList (fillOptional config code.toList kernel)

end Kernel

end PairLoop
