import Mathlib.Data.List.Forall2
import Mathlib.Tactic
import PairLoop.Library.Standard
import PairLoop.Proofs.Dependency.Chain
import PairLoop.Proofs.Library.Block

/-!
Libraries told by entries: for each block its name, the names that it uses, the value that its own
quantity has at first, and its evaluator. The standard library has thirteen of them, of which none
depends on itself.
-/

namespace PairLoop.Library

open Dependency

/-- What there is to know of a block whose fragment has been scanned: the names that it uses, the
value that its own quantity has at first, and its evaluator. -/
structure Entry where
  name : String
  symbols : List String
  initial : Value
  evaluator : Option Evaluator

namespace Entry

/-- The values that a block has of its own. -/
def defaults (entry : Entry) : Context :=
  CodeBlock.seed (Bindings.ofList [(entry.name, entry.initial)]) (.ofList entry.symbols)

theorem find_default (entry : Entry) (used : String) (different : used ≠ entry.name)
    (uses : used ∈ entry.symbols) :
    entry.defaults.find? used =
      (if Name.isIndex used = true then some (.int 0) else none).or
        (if Name.isSourceArray used = true ∨ Name.isDestinationArray used = true then
          some .placeholder else none) := by
  have initial : (Bindings.ofList [(entry.name, entry.initial)]).find? used = none := by
    change (Bindings.insert ∅ entry.name entry.initial).find? used = none
    rw [Bindings.insert_find, if_neg different, Bindings.find_empty]
  rw [defaults, CodeBlock.find_seed, initial, Option.none_or]
  simp only [NameSet.mem_of_list, uses, and_true]

theorem find_default_of_index (entry : Entry) (used : String) (different : used ≠ entry.name)
    (uses : used ∈ entry.symbols) (index : Name.isIndex used = true) :
    entry.defaults.find? used = some (.int 0) := by
  rw [entry.find_default used different uses, if_pos index]
  rfl

theorem find_default_of_array (entry : Entry) (used : String) (different : used ≠ entry.name)
    (uses : used ∈ entry.symbols)
    (array : Name.isSourceArray used = true ∨ Name.isDestinationArray used = true) :
    entry.defaults.find? used = some .placeholder := by
  rw [entry.find_default used different uses, Name.not_index_of_array used array, if_pos array]
  rfl

theorem find_default_of_other (entry : Entry) (used : String) (different : used ≠ entry.name)
    (uses : used ∈ entry.symbols) (other : Name.isIndex used = false)
    (unmarked : ¬ (Name.isSourceArray used = true ∨ Name.isDestinationArray used = true)) :
    entry.defaults.find? used = none := by
  rw [entry.find_default used different uses, other, if_neg unmarked]
  rfl

structure Describes (entry : Entry) (block : CodeBlock) : Prop where
  name : block.name = entry.name
  symbols : block.symbols = .ofList entry.symbols
  defaults : block.defaults = entry.defaults
  evaluator : block.evaluator = entry.evaluator

/-- A block is built, and the entry describes it. -/
def DescribesBuilt (entry : Entry) (built : Except ParseError CodeBlock) : Prop :=
  ∃ block, built = .ok block ∧ entry.Describes block

section Built

variable {name code : String} {symbols : List String}

theorem describes_real (scanned : Fragment.symbols code = .ok (.ofList symbols)) :
    DescribesBuilt ⟨name, symbols, .real 0.0, none⟩ (realBlock name code) :=
  ⟨_, CodeBlock.of_fragment_eq name code _ _ scanned, rfl, rfl, rfl, rfl⟩

theorem describes_vector (scanned : Fragment.symbols code = .ok (.ofList symbols)) :
    DescribesBuilt ⟨name, symbols, .vector [0.0, 0.0, 0.0], none⟩ (vectorBlock name code) :=
  ⟨_, CodeBlock.of_fragment_eq name code _ _ scanned, rfl, rfl, rfl, rfl⟩

theorem describes_evaluable {initial : Value} {evaluator : Evaluator}
    {built : Except ParseError CodeBlock}
    (described : DescribesBuilt ⟨name, symbols, initial, none⟩ built) :
    DescribesBuilt ⟨name, symbols, initial, some evaluator⟩
      (built.map (·.withEvaluator evaluator)) := by
  obtain ⟨block, rfl, described⟩ := described
  exact ⟨block.withEvaluator evaluator, rfl, described.name, described.symbols,
    described.defaults, rfl⟩

end Built

end Entry

/-- The blocks of the standard library. Every block stands behind those that it uses. -/
def standardEntries : List Entry :=
  [⟨"HIJ", ["HIJ", "d_h", "d_idx", "s_h", "s_idx"], .real 0.0, some (mean "HIJ" "h")⟩,
   ⟨"RHOIJ", ["RHOIJ", "d_idx", "d_rho", "s_idx", "s_rho"], .real 0.0,
     some (mean "RHOIJ" "rho")⟩,
   ⟨"RHOIJ1", ["RHOIJ", "RHOIJ1"], .real 0.0, some (reciprocal "RHOIJ1" "RHOIJ")⟩,
   ⟨"XIJ", ["XIJ", "d_idx", "d_x", "d_y", "d_z", "s_idx", "s_x", "s_y", "s_z"],
     .vector [0.0, 0.0, 0.0], some (difference "XIJ" ["x", "y", "z"])⟩,
   ⟨"VIJ", ["VIJ", "d_idx", "d_u", "d_v", "d_w", "s_idx", "s_u", "s_v", "s_w"],
     .vector [0.0, 0.0, 0.0], some (difference "VIJ" ["u", "v", "w"])⟩,
   ⟨"R2IJ", ["R2IJ", "XIJ"], .real 0.0, some (sumOfSquares "R2IJ" "XIJ")⟩,
   ⟨"RIJ", ["R2IJ", "RIJ", "sqrt"], .real 0.0, some (squareRoot "RIJ" "R2IJ")⟩,
   ⟨"WIJ", ["HIJ", "KERNEL", "RIJ", "WIJ", "XIJ"], .real 0.0, none⟩,
   ⟨"WI", ["KERNEL", "RIJ", "WI", "XIJ", "d_h", "d_idx"], .real 0.0, none⟩,
   ⟨"WJ", ["KERNEL", "RIJ", "WJ", "XIJ", "s_h", "s_idx"], .real 0.0, none⟩,
   ⟨"DWIJ", ["DWIJ", "GRADIENT", "HIJ", "RIJ", "XIJ"], .vector [0.0, 0.0, 0.0], none⟩,
   ⟨"DWI", ["DWI", "GRADIENT", "RIJ", "XIJ", "d_h", "d_idx"], .vector [0.0, 0.0, 0.0], none⟩,
   ⟨"DWJ", ["DWJ", "GRADIENT", "RIJ", "XIJ", "s_h", "s_idx"], .vector [0.0, 0.0, 0.0], none⟩]

theorem standard_blocks_described :
    List.Forall₂ Entry.DescribesBuilt standardEntries standardBlocks := by
  exact
    .cons (Entry.describes_evaluable (Entry.describes_real (by decide +kernel))) <|
    .cons (Entry.describes_evaluable (Entry.describes_real (by decide +kernel))) <|
    .cons (Entry.describes_evaluable (Entry.describes_real (by decide +kernel))) <|
    .cons (Entry.describes_evaluable (Entry.describes_vector (by decide +kernel))) <|
    .cons (Entry.describes_evaluable (Entry.describes_vector (by decide +kernel))) <|
    .cons (Entry.describes_evaluable (Entry.describes_real (by decide +kernel))) <|
    .cons (Entry.describes_evaluable (Entry.describes_real (by decide +kernel))) <|
    .cons (Entry.describes_real (by decide +kernel)) <|
    .cons (Entry.describes_real (by decide +kernel)) <|
    .cons (Entry.describes_real (by decide +kernel)) <|
    .cons (Entry.describes_vector (by decide +kernel)) <|
    .cons (Entry.describes_vector (by decide +kernel)) <|
    .cons (Entry.describes_vector (by decide +kernel)) .nil

/-- The library holds one block for each of the entries, in their order. -/
structure DescribedBy (library : Library) (entries : List Entry) : Prop where
  names : library.names = entries.map Entry.name
  found : ∀ entry ∈ entries, ∃ block, library.find? entry.name = some block ∧
    entry.Describes block

theorem exists_blocks (entries : List Entry) (built : List (Except ParseError CodeBlock))
    (described : List.Forall₂ Entry.DescribesBuilt entries built) :
    ∃ blocks, built.mapM id = .ok blocks ∧ List.Forall₂ Entry.Describes entries blocks := by
  induction described with
  | nil => exact ⟨[], rfl, .nil⟩
  | cons first _ induction =>
    obtain ⟨block, rfl, described⟩ := first
    obtain ⟨blocks, rest, others⟩ := induction
    refine ⟨block :: blocks, ?_, .cons described others⟩
    rw [List.mapM_cons, rest]
    rfl

theorem names_of_described (entries : List Entry) (blocks : List CodeBlock)
    (described : List.Forall₂ Entry.Describes entries blocks) :
    blocks.map CodeBlock.name = entries.map Entry.name := by
  induction described with
  | nil => rfl
  | cons first _ induction => rw [List.map_cons, List.map_cons, first.name, induction]

theorem exists_described (entries : List Entry) (blocks : List CodeBlock)
    (described : List.Forall₂ Entry.Describes entries blocks) (entry : Entry)
    (listed : entry ∈ entries) : ∃ block ∈ blocks, entry.Describes block := by
  induction described with
  | nil => exact absurd listed List.not_mem_nil
  | cons first _ induction =>
    rcases List.mem_cons.1 listed with rfl | later
    · exact ⟨_, List.mem_cons_self, first⟩
    · obtain ⟨block, member, described⟩ := induction later
      exact ⟨block, List.mem_cons_of_mem _ member, described⟩

theorem described_by_of_blocks (entries : List Entry) (blocks : List CodeBlock)
    (described : List.Forall₂ Entry.Describes entries blocks)
    (distinct : (entries.map Entry.name).Nodup) : (ofBlocks blocks).DescribedBy entries := by
  have names := names_of_described entries blocks described
  have pairs := of_blocks_pairs blocks (names ▸ distinct)
  constructor
  · rw [Bindings.names, pairs, List.map_map]
    exact names
  · intro entry listed
    obtain ⟨block, member, described⟩ := exists_described entries blocks described entry listed
    refine ⟨block, Bindings.find_of_mem _ _ _ ?_, described⟩
    rw [pairs, ← described.name]
    exact List.mem_map_of_mem member

theorem exists_standard :
    ∃ library, standard = .ok library ∧ library.DescribedBy standardEntries := by
  obtain ⟨blocks, built, described⟩ := exists_blocks _ _ standard_blocks_described
  refine ⟨ofBlocks blocks, ?_, described_by_of_blocks _ _ described (by decide)⟩
  rw [standard, built]
  rfl

section Described

variable {library : Library} {entries : List Entry}

theorem symbols_of_entry (described : library.DescribedBy entries) (entry : Entry)
    (listed : entry ∈ entries) : library.symbolsOf entry.name = .ofList entry.symbols := by
  obtain ⟨block, found, described⟩ := described.found entry listed
  rw [symbols_of_find library entry.name block found, described.symbols]

/-- Where every block stands behind those that it uses, none depends on itself. -/
theorem acyclic_of_described (described : library.DescribedBy entries)
    (behind : ∀ entry ∈ entries, ∀ used ∈ entry.symbols, used ∈ entries.map Entry.name →
      used ≠ entry.name →
        (entries.map Entry.name).idxOf used < (entries.map Entry.name).idxOf entry.name) :
    ¬ Cyclic library.symbolsOf library.names := by
  apply acyclic_of_descends (entries.map Entry.name).idxOf
  intro name used depends
  rw [described.names] at depends
  obtain ⟨member, available, uses, different⟩ := depends
  obtain ⟨entry, listed, rfl⟩ := List.mem_map.1 member
  rw [symbols_of_entry described entry listed, NameSet.mem_of_list] at uses
  exact behind entry listed used uses available different

end Described

end PairLoop.Library
