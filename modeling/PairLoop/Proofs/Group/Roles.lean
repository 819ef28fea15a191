import PairLoop.Group.Declarations
import PairLoop.Proofs.Group.ArrayNames
import PairLoop.Proofs.Group.Reachable

/-!
What the symbols of resolved fragments stand for. The spelling of a name gives it one of six roles.
The variables of a group and its arrays of either side are collected in different places and at
different times, but of the symbols of its resolved blocks they hold exactly those of their role.
-/

namespace PairLoop

/-- What a symbol of a fragment stands for. -/
inductive Role
  /-- A variable, be it a number or a vector. -/
  | quantity
  | sourceArray
  | destinationArray
  | index
  | kernelToken
  | mathFunction
deriving DecidableEq

/-- Whether a name is spelled for a role. -/
def Role.fits : Role → String → Bool
  | .quantity => Group.isVariable
  | .sourceArray => Name.isSourceArray
  | .destinationArray => Name.isDestinationArray
  | .index => Name.isIndex
  | .kernelToken => Name.isKernelToken
  | .mathFunction => Name.isMathFunction

namespace Name

/-- The role of a name. An index is spelled like an array of its side, so it is looked for first. -/
def role (name : String) : Role :=
  if isIndex name then .index
  else if isSource name then .sourceArray
  else if isDestination name then .destinationArray
  else if isKernelToken name then .kernelToken
  else if isMathFunction name then .mathFunction
  else .quantity

theorem fits_role (name : String) : (role name).fits name = true := by
  unfold role
  split_ifs with index source destination token function
  · exact index
  · have different : name ≠ sourceIndex := by
      rintro rfl
      exact index rfl
    simp [Role.fits, isSourceArray, source, different]
  · have different : name ≠ destinationIndex := by
      rintro rfl
      exact index rfl
    simp [Role.fits, isDestinationArray, destination, different]
  · exact token
  · exact function
  · simp [Role.fits, Group.isVariable, index, source, destination, token, function]

theorem role_of_fits (name : String) (role : Role) (fits : role.fits name = true) :
    Name.role name = role := by
  unfold Role.fits at fits
  cases role with
  | quantity =>
    simp only [Group.isVariable, Bool.and_eq_true, Bool.not_eq_true'] at fits
    obtain ⟨⟨⟨⟨noSource, noDestination⟩, noToken⟩, noIndex⟩, noFunction⟩ := fits
    simp [Name.role, noSource, noDestination, noToken, noIndex, noFunction]
  | sourceArray =>
    have noIndex := not_index_of_array name (.inl fits)
    have source : isSource name = true := (Bool.and_eq_true_iff.1 fits).1
    simp [Name.role, noIndex, source]
  | destinationArray =>
    have noIndex := not_index_of_array name (.inr fits)
    have destination : isDestination name = true := (Bool.and_eq_true_iff.1 fits).1
    have noSource := not_source_of_destination name destination
    simp [Name.role, noIndex, noSource, destination]
  | index => exact if_pos fits
  -- The remaining names are fixed, and their roles can be computed.
  | kernelToken =>
    rcases Bool.or_eq_true_iff.1 fits with same | same
    · rw [beq_iff_eq.1 same]
      decide
    · rw [beq_iff_eq.1 same]
      decide
  | mathFunction =>
    have functions : ∀ function ∈ mathFunctions, Name.role function = .mathFunction := by decide
    exact functions name (List.contains_iff_mem.1 fits)

end Name

/-- Of the symbols of its blocks a resolution holds those that are spelled like arrays. -/
structure Resolution.Collected (resolution : Resolution) : Prop where
  source : ∀ block ∈ resolution.precomputed.values, ∀ symbol ∈ block.symbols,
    symbol ∈ resolution.sourceArrays ↔ Name.isSourceArray symbol = true
  destination : ∀ block ∈ resolution.precomputed.values, ∀ symbol ∈ block.symbols,
    symbol ∈ resolution.destinationArrays ↔ Name.isDestinationArray symbol = true

theorem Resolution.collected_of_resolve (library : Library) (config : Config)
    (equations : List Equation) (resolution : Resolution)
    (resolved : resolve library config equations = .ok resolution) : resolution.Collected := by
  obtain ⟨order, _, rfl⟩ := (resolve_eq_ok_iff ..).1 resolved
  have named : ∀ block ∈ (blocksOf library order).values, ∀ symbol ∈ block.symbols,
      symbol ∈ mentioned equations (blocksOf library order) := by
    intro block listed symbol member
    exact (mem_mentioned_iff ..).2 (.inr ⟨block, listed, member⟩)
  constructor
  · intro block listed symbol member
    exact (Name.mem_source_arrays ..).trans (and_iff_right (named block listed symbol member))
  · intro block listed symbol member
    exact (Name.mem_destination_arrays ..).trans (and_iff_right (named block listed symbol member))

namespace Group

theorem collected_of_refreshed (group : Group) (collected : group.resolution.Collected) :
    (refresh group).2.resolution.Collected := by
  rw [refresh_eq]
  cases resolved : Resolution.resolve group.library group.config group.equations with
  | error error => exact collected
  | ok resolution => exact Resolution.collected_of_resolve _ _ _ resolution resolved

/-- The arrays of a group belong to its blocks, also after edits and after updates that failed. -/
theorem collected_of_reachable (group : Group) (reachable : group.Reachable) :
    group.resolution.Collected := by
  induction reachable using Group.Reachable.induct with
  | assembled library config equations group available constructed =>
    obtain ⟨resolution, resolved, rfl⟩ := (update_eq_ok_iff _ group).1 constructed
    exact Resolution.collected_of_resolve library config equations resolution resolved
  | edited group equations reachable available collected => exact collected
  | updated group reachable collected => exact group.collected_of_refreshed collected
  | wrapped State group generate state reachable collected => exact collected

/-- A name is among what a group or the conventions of names have under a role. -/
def Plays (group : Group) (name : String) : Role → Prop
  | .quantity => name ∈ group.variableNames
  | .sourceArray => name ∈ group.resolution.sourceArrays
  | .destinationArray => name ∈ group.resolution.destinationArrays
  | .index => name = Name.sourceIndex ∨ name = Name.destinationIndex
  | .kernelToken => name = Name.kernelToken ∨ name = Name.gradientToken
  | .mathFunction => name ∈ Name.mathFunctions

theorem mem_variable_names_iff (group : Group) (name : String) :
    name ∈ group.variableNames ↔
      (∃ block ∈ group.resolution.precomputed.values, name ∈ block.symbols) ∧
        isVariable name = true := by
  unfold variableNames
  rw [NameSet.mem_filter, NameSet.mem_union_all]
  simp

theorem plays_iff (group : Group) (collected : group.resolution.Collected) (block : CodeBlock)
    (listed : block ∈ group.resolution.precomputed.values) (symbol : String)
    (member : symbol ∈ block.symbols) (role : Role) :
    group.Plays symbol role ↔ role.fits symbol = true := by
  unfold Plays Role.fits
  cases role with
  | quantity =>
    rw [mem_variable_names_iff]
    exact and_iff_right ⟨block, listed, member⟩
  | sourceArray => exact collected.source block listed symbol member
  | destinationArray => exact collected.destination block listed symbol member
  | index => simp [Name.isIndex]
  | kernelToken => simp [Name.isKernelToken]
  | mathFunction => simp [Name.isMathFunction]

/-- Every symbol of a resolved block plays one role and no other, whatever names were found in its
fragment and whatever has been done to the group. The variables are listed in ascending order, and
each is a symbol of a resolved block. -/
theorem exists_unique_role (group : Group) (reachable : group.Reachable) :
    (∀ block ∈ group.resolution.precomputed.values, ∀ symbol ∈ block.symbols,
      ∃! role, group.Plays symbol role) ∧
    group.variableNames.toList.Pairwise (· < ·) ∧
    ∀ name ∈ group.variableNames,
      ∃ block ∈ group.resolution.precomputed.values, name ∈ block.symbols := by
  have collected := collected_of_reachable group reachable
  refine ⟨?_, group.variableNames.ascending, ?_⟩
  · intro block listed symbol member
    have plays := plays_iff group collected block listed symbol member
    refine ⟨Name.role symbol, (plays _).2 (Name.fits_role symbol), ?_⟩
    intro role played
    exact (Name.role_of_fits symbol role ((plays role).1 played)).symm
  · intro name member
    exact ((mem_variable_names_iff group name).1 member).1

/-- The equations are taken out of a group and it is not updated. Its one block was built by an
extractor that finds a name for every role, also names that the fragment does not have. -/
theorem exists_unique_role_of_emptied_probe :
    let symbols : NameSet :=
      .ofList ["GRADIENT", "W", "d_m", "gamma", "s_", "s_idx", "s_idx0", "sqrt"]
    let probe := (Equation.ofClass "Probe" "fluid" ["fluid"]).withBehavior .perPair ["self", "W"]
    ∃ block, CodeBlock.build (fun _ => .ok symbols) "W" "W = sqrt(gamma)\n" ∅ = .ok block ∧
      ∃ group, assemble (.ofBlocks [block]) .standard [probe] = .ok group ∧
        let emptied := group.withEquations []
        emptied.Reachable ∧
        emptied.resolution.precomputed.values.map CodeBlock.symbols = [symbols] ∧
        emptied.variableNames = .ofList ["W", "gamma"] ∧
        emptied.resolution.sourceArrays = .ofList ["s_", "s_idx0"] ∧
        ∀ block ∈ emptied.resolution.precomputed.values, ∀ symbol ∈ block.symbols,
          ∃! role, emptied.Plays symbol role := by
  intro symbols probe
  let block : CodeBlock :=
    ⟨"W", Fragment.dedent "W = sqrt(gamma)\n", symbols, CodeBlock.seed ∅ symbols, none⟩
  have evaluated : (assemble (.ofBlocks [block]) .standard [probe]).map (fun group =>
      (group.resolution.precomputed.values.map CodeBlock.symbols, group.variableNames,
        group.resolution.sourceArrays)) =
          .ok ([symbols], .ofList ["W", "gamma"], .ofList ["s_", "s_idx0"]) := by
    decide +kernel
  obtain ⟨group, assembled, outcome⟩ := (except_map_eq_ok_iff ..).1 evaluated
  simp only [Prod.mk.injEq] at outcome
  have built : ∀ equation ∈ [probe], equation.Available := by
    intro equation member
    rw [List.mem_singleton.1 member]
    exact .withBehavior _ _ _ (.ofClass "Probe" "fluid" ["fluid"])
  have reachable : (group.withEquations []).Reachable := by
    apply Reachable.edited
    · exact .assembled _ .standard [probe] group built assembled
    · intro equation member
      exact absurd member List.not_mem_nil
  refine ⟨block, rfl, group, assembled, reachable, outcome.1, outcome.2.1, outcome.2.2, ?_⟩
  exact (exists_unique_role (group.withEquations []) reachable).1

end Group

end PairLoop
