import PairLoop.Library.Block

/-!
Libraries: the code blocks that are available under their names, in the order of registration. A
block uses other blocks by naming their quantities; names that no block computes are inputs.
-/

namespace PairLoop

abbrev Library := Bindings CodeBlock

namespace Library

/-- The library of the given blocks. A later block of a name replaces an earlier one in its
place. -/
def ofBlocks (blocks : List CodeBlock) : Library :=
  Bindings.ofList (blocks.map fun block => (block.name, block))

/-- Blocks with distinct names are all kept, in their order. -/
theorem of_blocks_pairs (blocks : List CodeBlock) (distinct : (blocks.map CodeBlock.name).Nodup) :
    (ofBlocks blocks).pairs = blocks.map fun block => (block.name, block) := by
  apply Bindings.of_list_pairs
  rw [List.map_map]
  exact distinct

def nameSet (library : Library) : NameSet := .ofList library.names

/-- The names that the block of a name uses. A name without a block uses none. -/
def symbolsOf (library : Library) (name : String) : NameSet :=
  match library.find? name with
  | some block => block.symbols
  | none => ∅

theorem mem_name_set (library : Library) (name : String) :
    name ∈ library.nameSet ↔ name ∈ library.names :=
  NameSet.mem_of_list library.names name

theorem symbols_of_find (library : Library) (name : String) (block : CodeBlock)
    (found : library.find? name = some block) : library.symbolsOf name = block.symbols := by
  simp [symbolsOf, found]

end Library

end PairLoop
