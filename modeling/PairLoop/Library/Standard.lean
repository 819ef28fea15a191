import PairLoop.Library.Basic

/-!
The standard library of pairwise quantities: mean smoothing lengths and densities, displacements and
relative velocities, distances, and the kernel with its gradient. The kernel's quantities have no
evaluator, since a kernel is supplied with the generated code.
-/

namespace PairLoop.Library

def pairElements (context : Context) (quantity : String) : Except EvalError (Float × Float) := do
  let destination ← context.element (Name.destinationMark ++ quantity) Name.destinationIndex
  let source ← context.element (Name.sourceMark ++ quantity) Name.sourceIndex
  .ok (destination, source)

def mean (target quantity : String) : Evaluator := fun context => do
  let (destination, source) ← pairElements context quantity
  .ok (context.setReal target (0.5 * (destination + source)))

def difference (target : String) (quantities : List String) : Evaluator := fun context => do
  let components ← quantities.mapM fun quantity => do
    let (destination, source) ← pairElements context quantity
    Except.ok (destination - source)
  .ok (context.setVector target components)

def reciprocal (target name : String) : Evaluator := fun context => do
  let number ← context.real name
  .ok (context.setReal target (1.0 / number))

def squareRoot (target name : String) : Evaluator := fun context => do
  let number ← context.real name
  .ok (context.setReal target number.sqrt)

/-- The sum of squares of a vector's components. The sum over no components is the negative zero. -/
def sumOfSquares (target name : String) : Evaluator := fun context => do
  let components ← context.vector name
  .ok (context.setReal target
    (components.foldl (fun sum component => sum + component * component) (-0.0)))

def zeroReal (name : String) : Context := Bindings.ofList [(name, .real 0.0)]

/-- A context in which a quantity is the zero vector of three components. -/
def zeroVector (name : String) : Context := Bindings.ofList [(name, .vector [0.0, 0.0, 0.0])]

def realBlock (name code : String) : Except ParseError CodeBlock :=
  CodeBlock.ofFragment name code (zeroReal name)

def vectorBlock (name code : String) : Except ParseError CodeBlock :=
  CodeBlock.ofFragment name code (zeroVector name)

def standardBlocks : List (Except ParseError CodeBlock) :=
  [(realBlock "HIJ" "HIJ = 0.5*(d_h[d_idx] + s_h[s_idx])").map
      (·.withEvaluator (mean "HIJ" "h")),
   (realBlock "RHOIJ" "RHOIJ = 0.5*(d_rho[d_idx] + s_rho[s_idx])").map
      (·.withEvaluator (mean "RHOIJ" "rho")),
   (realBlock "RHOIJ1" "RHOIJ1 = 1.0/RHOIJ").map
      (·.withEvaluator (reciprocal "RHOIJ1" "RHOIJ")),
   (vectorBlock "XIJ" ("\nXIJ[0] = d_x[d_idx] - s_x[s_idx]" ++
      "\nXIJ[1] = d_y[d_idx] - s_y[s_idx]\nXIJ[2] = d_z[d_idx] - s_z[s_idx]\n")).map
      (·.withEvaluator (difference "XIJ" ["x", "y", "z"])),
   (vectorBlock "VIJ" ("\nVIJ[0] = d_u[d_idx] - s_u[s_idx]" ++
      "\nVIJ[1] = d_v[d_idx] - s_v[s_idx]\nVIJ[2] = d_w[d_idx] - s_w[s_idx]\n")).map
      (·.withEvaluator (difference "VIJ" ["u", "v", "w"])),
   (realBlock "R2IJ" "\nR2IJ = XIJ[0]*XIJ[0] + XIJ[1]*XIJ[1] + XIJ[2]*XIJ[2]\n").map
      (·.withEvaluator (sumOfSquares "R2IJ" "XIJ")),
   (realBlock "RIJ" "\nRIJ = sqrt(R2IJ)\n").map
      (·.withEvaluator (squareRoot "RIJ" "R2IJ")),
   realBlock "WIJ" "WIJ = KERNEL(XIJ, RIJ, HIJ)",
   realBlock "WI" "WI = KERNEL(XIJ, RIJ, d_h[d_idx])",
   realBlock "WJ" "WJ = KERNEL(XIJ, RIJ, s_h[s_idx])",
   vectorBlock "DWIJ" "GRADIENT(XIJ, RIJ, HIJ, DWIJ)",
   vectorBlock "DWI" "GRADIENT(XIJ, RIJ, d_h[d_idx], DWI)",
   vectorBlock "DWJ" "GRADIENT(XIJ, RIJ, s_h[s_idx], DWJ)"]

def standard : Except ParseError Library := do
  let blocks ← standardBlocks.mapM id
  .ok (ofBlocks blocks)

end PairLoop.Library
