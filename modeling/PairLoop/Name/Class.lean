import PairLoop.NameSet

/-!
What a name of a fragment stands for, read off its spelling. A pair loop runs over a destination
particle and its sources; the arrays of either side carry its letter in front of their name.
-/

namespace PairLoop.Name

def sourceMark : String := "s_"

def destinationMark : String := "d_"

def sourceIndex : String := "s_idx"

def destinationIndex : String := "d_idx"

/-- The place of a call of the kernel function. -/
def kernelToken : String := "KERNEL"

/-- The place of a call of the kernel's gradient. -/
def gradientToken : String := "GRADIENT"

def begins (mark name : String) : Bool := mark.toList.isPrefixOf name.toList

def isSource (name : String) : Bool := begins sourceMark name

def isDestination (name : String) : Bool := begins destinationMark name

def isIndex (name : String) : Bool := name == sourceIndex || name == destinationIndex

def isSourceArray (name : String) : Bool := isSource name && name != sourceIndex

def isDestinationArray (name : String) : Bool := isDestination name && name != destinationIndex

def isKernelToken (name : String) : Bool := name == kernelToken || name == gradientToken

/-- The functions of the mathematics library that generated code can call. The gamma function and
its logarithm are left out: their names are those of common material constants. -/
def mathFunctions : List String :=
  ["acos", "acosh", "asin", "asinh", "atan", "atan2", "atanh", "ceil", "copysign", "cos", "cosh",
   "degrees", "erf", "erfc", "exp", "expm1", "fabs", "factorial", "floor", "fmod", "frexp", "fsum",
   "hypot", "isinf", "isnan", "ldexp", "log", "log10", "log1p", "modf", "pow", "radians", "sin",
   "sinh", "sqrt", "tan", "tanh", "trunc"]

def isMathFunction (name : String) : Bool := mathFunctions.contains name

def sourceArrays (names : NameSet) : NameSet := names.filter isSourceArray

def destinationArrays (names : NameSet) : NameSet := names.filter isDestinationArray

theorem mem_source_arrays (names : NameSet) (name : String) :
    name ∈ sourceArrays names ↔ name ∈ names ∧ isSourceArray name = true :=
  NameSet.mem_filter isSourceArray names name

theorem mem_destination_arrays (names : NameSet) (name : String) :
    name ∈ destinationArrays names ↔ name ∈ names ∧ isDestinationArray name = true :=
  NameSet.mem_filter isDestinationArray names name

/-- No name is spelled for both sides. -/
theorem not_source_of_destination (name : String) (destination : isDestination name = true) :
    isSource name = false := by
  obtain ⟨rest, split⟩ := List.isPrefixOf_iff_prefix.1 destination
  unfold isSource begins
  rw [← split]
  rfl

/-- The indices are no arrays. -/
theorem not_index_of_array (name : String)
    (array : isSourceArray name = true ∨ isDestinationArray name = true) :
    isIndex name = false := by
  rw [Bool.eq_false_iff]
  intro index
  rcases Bool.or_eq_true_iff.1 index with source | destination
  · rw [beq_iff_eq.1 source] at array
    exact absurd array (by decide)
  · rw [beq_iff_eq.1 destination] at array
    exact absurd array (by decide)

end PairLoop.Name
