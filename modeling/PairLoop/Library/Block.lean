import PairLoop.Context.Json
import PairLoop.Fragment.Symbols
import PairLoop.Listing
import PairLoop.Name.Class

/-!
Code blocks: a fragment of code that computes one named quantity, the names it uses, and the values
it is tried on by itself. A block that knows how to compute its quantity directly can be evaluated.
-/

namespace PairLoop

/-- A direct computation of a block's quantity: a context is turned into one that binds it. -/
abbrev Evaluator := Context → Except EvalError Context

abbrev Extractor := String → Except ParseError NameSet

structure CodeBlock where
  name : String
  /-- The fragment, without common indentation. -/
  code : String
  symbols : NameSet
  defaults : Context
  evaluator : Option Evaluator

namespace CodeBlock

/-- The given values, with indices and arrays for the names that lack one: the indices first, then
the source arrays and the destination arrays, each in ascending order. -/
def seed (given : Context) (symbols : NameSet) : Context :=
  let indices :=
    [Name.sourceIndex, Name.destinationIndex].filter fun name => decide (name ∈ symbols)
  let arrays := (Name.sourceArrays symbols).toList ++ (Name.destinationArrays symbols).toList
  let indexed := indices.foldl (fun context name => context.supply name (.int 0)) given
  arrays.foldl (fun context name => context.supply name .placeholder) indexed

def build (extract : Extractor) (name code : String) (given : Context) :
    Except ParseError CodeBlock :=
  let fragment := Fragment.dedent code
  match extract fragment with
  | .error error => .error error
  | .ok symbols => .ok ⟨name, fragment, symbols, seed given symbols, none⟩

/-- Builds a block whose names are found by the scan of its fragment. -/
def ofFragment (name code : String) (given : Context) : Except ParseError CodeBlock :=
  build Fragment.symbols name code given

def withEvaluator (block : CodeBlock) (evaluator : Evaluator) : CodeBlock :=
  { block with evaluator := some evaluator }

def sourceArrays (block : CodeBlock) : NameSet := Name.sourceArrays block.symbols

def destinationArrays (block : CodeBlock) : NameSet := Name.destinationArrays block.symbols

def isEvaluable (block : CodeBlock) : Bool := block.evaluator.isSome

/-- The value that the block gives its own quantity before anything is computed. -/
def defaultValue? (block : CodeBlock) : Option Value := block.defaults.find? block.name

/-- Evaluates the block on its own values overlaid with `extra`. -/
def evaluate (block : CodeBlock) (extra : Context) : Except EvalError Context :=
  match block.evaluator with
  | some evaluator => evaluator (block.defaults.merge extra)
  | none => .error (.notEvaluable block.name)

/-- The block as a JSON document. The evaluator has no place in it. -/
def toJson (block : CodeBlock) : Json :=
  .ofFields
    [("name", .ofString block.name),
     ("code", .ofString block.code),
     ("symbols", .ofStrings block.symbols.toList),
     ("source_arrays", .ofStrings block.sourceArrays.toList),
     ("dest_arrays", .ofStrings block.destinationArrays.toList),
     ("context", block.defaults.toJson)]

def listing (block : CodeBlock) : String :=
  "CodeBlock \x7b name: " ++ Listing.quoted block.name ++
    ", code: " ++ Listing.quoted block.code ++
    ", symbols: " ++ Listing.braced block.symbols.toList ++
    ", evaluable: " ++ (if block.isEvaluable then "true" else "false") ++ " \x7d"

end CodeBlock

end PairLoop
