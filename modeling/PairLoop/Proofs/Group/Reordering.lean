import PairLoop.Proofs.Group.Resolution
import PairLoop.Proofs.Group.Update

/-!
Resolutions of equations and libraries in another order. A library answers by name and a schedule
sees sets of names only, so neither the order in which blocks were registered nor that of the
equations shows in a resolution or in a cycle. Only which unknown name is reported depends on it.
-/

namespace PairLoop

namespace Library

/-- Libraries of the same blocks, whose names are distinct, hold the same pairs. -/
theorem of_blocks_perm (blocks others : List CodeBlock)
    (distinct : (blocks.map CodeBlock.name).Nodup) (reordered : blocks.Perm others) :
    (ofBlocks blocks).pairs.Perm (ofBlocks others).pairs := by
  have otherDistinct : (others.map CodeBlock.name).Nodup :=
    (reordered.map CodeBlock.name).nodup_iff.1 distinct
  rw [of_blocks_pairs blocks distinct, of_blocks_pairs others otherDistinct]
  exact reordered.map _

variable (first second : Library) (reordered : first.pairs.Perm second.pairs)

include reordered

theorem contains_of_reordered (name : String) : first.contains name = second.contains name := by
  rw [Bool.eq_iff_iff, Bindings.contains_iff, Bindings.contains_iff]
  exact (reordered.map Prod.fst).mem_iff

theorem name_set_of_reordered : first.nameSet = second.nameSet := by
  apply NameSet.ext
  intro name
  rw [mem_name_set, mem_name_set]
  exact (reordered.map Prod.fst).mem_iff

theorem symbols_of_reordered : first.symbolsOf = second.symbolsOf := by
  funext name
  unfold symbolsOf
  rw [Bindings.find_eq_of_perm first second reordered]

theorem closure_of_reordered (seeds others : List String)
    (sameSeeds : ∀ name, name ∈ seeds ↔ name ∈ others) :
    first.closure seeds = second.closure others := by
  have sets : NameSet.ofList seeds = NameSet.ofList others := by
    apply NameSet.ext
    intro name
    rw [NameSet.mem_of_list, NameSet.mem_of_list, sameSeeds]
  unfold closure
  rw [name_set_of_reordered first second reordered, symbols_of_reordered first second reordered,
    sets]

theorem schedule_of_reordered (names : List String) :
    first.schedule names = second.schedule names := by
  unfold schedule
  rw [symbols_of_reordered first second reordered]
  simp only [contains_of_reordered first second reordered]

end Library

namespace Resolution

section Libraries

variable (first second : Library) (sameBlocks : first.pairs.Perm second.pairs)

include sameBlocks

theorem is_known_of_reordered (name : String) : isKnown first name = isKnown second name := by
  unfold isKnown
  rw [Library.contains_of_reordered first second sameBlocks]

theorem blocks_of_reordered (names : List String) :
    blocksOf first names = blocksOf second names := by
  unfold blocksOf
  simp only [Bindings.find_eq_of_perm first second sameBlocks]

end Libraries

theorem mentioned_of_reordered (equations others : List Equation)
    (sameEquations : equations.Perm others) (blocks : Bindings CodeBlock) :
    mentioned equations blocks = mentioned others blocks := by
  have parameters : NameSet.ofList (equations.flatMap Equation.parameters) =
      NameSet.ofList (others.flatMap Equation.parameters) := by
    apply NameSet.ext
    intro name
    rw [NameSet.mem_of_list, NameSet.mem_of_list]
    exact (sameEquations.flatMap_right Equation.parameters).mem_iff
  unfold mentioned
  rw [parameters]

variable (config : Config) (first second : Library) (equations others : List Equation)
  (sameBlocks : first.pairs.Perm second.pairs) (sameEquations : equations.Perm others)

include sameBlocks sameEquations

theorem refused_of_reordered :
    Refused first config equations ↔ Refused second config others := by
  unfold Refused
  simp only [is_known_of_reordered first second sameBlocks, sameEquations.mem_iff]

theorem needed_schedule_of_reordered :
    neededSchedule first config equations = neededSchedule second config others := by
  have sameArguments : ∀ name,
      name ∈ (pairArguments config.receiver equations).map Prod.snd ↔
        name ∈ (pairArguments config.receiver others).map Prod.snd := by
    intro name
    simp only [mem_pair_arguments_iff, sameEquations.mem_iff]
  unfold neededSchedule
  rw [Library.closure_of_reordered first second sameBlocks _ _ sameArguments,
    Library.schedule_of_reordered first second sameBlocks]

theorem of_order_of_reordered (names : List String) :
    ofOrder first equations names = ofOrder second others names := by
  unfold ofOrder
  simp only [blocks_of_reordered first second sameBlocks,
    mentioned_of_reordered equations others sameEquations]

/-- If no name is reported as unknown, the outcome is the same, be it a failure or not. -/
theorem resolve_of_reordered (accepted : ¬ Refused first config equations) :
    resolve first config equations = resolve second config others := by
  have otherAccepted : ¬ Refused second config others :=
    mt (refused_of_reordered config first second equations others sameBlocks sameEquations).2
      accepted
  have resolutions : ofOrder first equations = ofOrder second others := by
    funext names
    exact of_order_of_reordered first second equations others sameBlocks sameEquations names
  rw [resolve_of_not_refused first config equations accepted,
    resolve_of_not_refused second config others otherAccepted,
    needed_schedule_of_reordered config first second equations others sameBlocks sameEquations,
    resolutions]

end Resolution

namespace Group

/-- Two groups whose equations and whose library's blocks differ in order only are updated with the
same outcome: they get the same resolution or the same cycle is reported, or some name is unknown
in both. Only strict settings have names reported as unknown. -/
theorem update_of_reordered (first second : Group) (sameConfig : first.config = second.config)
    (sameBlocks : first.library.pairs.Perm second.library.pairs)
    (sameEquations : first.equations.Perm second.equations) :
    (∀ resolution, (∃ next, first.update = .ok next ∧ next.resolution = resolution) ↔
      ∃ next, second.update = .ok next ∧ next.resolution = resolution) ∧
    (∀ error, first.update = .error (.cycle error) ↔ second.update = .error (.cycle error)) ∧
    ((∃ equation symbol phase, first.update = .error (.unknownSymbol equation symbol phase)) ↔
      ∃ equation symbol phase, second.update = .error (.unknownSymbol equation symbol phase)) ∧
    (first.config.strict = false → ∀ equation symbol phase,
      first.update ≠ .error (.unknownSymbol equation symbol phase)) := by
  have refusals : Resolution.Refused first.library first.config first.equations ↔
      Resolution.Refused second.library second.config second.equations := by
    rw [← sameConfig]
    exact Resolution.refused_of_reordered _ _ _ _ _ sameBlocks sameEquations
  simp only [exists_updated_iff, update_eq_error_iff, Resolution.exists_unknown_symbol_iff]
  by_cases refused : Resolution.Refused first.library first.config first.equations
  -- Which argument is reported does depend on the order, so the two refusals are kept apart.
  · obtain ⟨equation, symbol, failed⟩ := Resolution.resolve_of_refused _ _ _ refused
    obtain ⟨other, otherSymbol, otherFailed⟩ :=
      Resolution.resolve_of_refused _ _ _ (refusals.1 refused)
    refine ⟨?_, ?_, refusals, ?_⟩
    · intro resolution
      simp [failed, otherFailed]
    · intro error
      simp [failed, otherFailed]
    · intro lenient
      rw [refused.1] at lenient
      exact Bool.noConfusion lenient
  · have same : Resolution.resolve first.library first.config first.equations =
        Resolution.resolve second.library second.config second.equations := by
      rw [← sameConfig]
      exact Resolution.resolve_of_reordered _ _ _ _ _ sameBlocks sameEquations refused
    refine ⟨?_, ?_, refusals, ?_⟩
    · intro resolution
      rw [same]
    · intro error
      rw [same]
    · intro _ equation symbol phase reported
      have failed := (update_eq_error_iff first _).1 reported
      exact refused ((Resolution.exists_unknown_symbol_iff ..).1 ⟨equation, symbol, phase, failed⟩)

/-- The equations and the registration are turned round. The first pair of equations is resolved,
the second leads to the cycle of "p" and "q" and takes an unknown name. -/
theorem update_of_reordered_by_reversal :
    let blocks := [("a", ["b"]), ("b", []), ("p", ["q"]), ("q", ["p"]), ("r", ["p"])]
    let drag := (Equation.ofClass "Drag" "fluid" ["fluid"]).withBehavior .perPair
      ["self", "a", "d_x"]
    let lift := (Equation.ofClass "Lift" "fluid" ["fluid"]).withBehavior .perPair ["s_y", "b"]
    let push := (Equation.ofClass "Push" "fluid" ["fluid"]).withBehavior .perPair ["r", "?"]
    let forth (config : Config) (equations : List Equation) : Group :=
      ⟨.ofUses blocks, config, equations, .blank⟩
    let back (config : Config) (equations : List Equation) : Group :=
      ⟨.ofUses blocks.reverse, config, equations.reverse, .blank⟩
    (∃ next, (forth .standard [drag, lift]).update = .ok next ∧
      next.resolution.precomputed.names = ["b", "a"] ∧
      ∃ other, (back .standard [drag, lift]).update = .ok other ∧
        other.resolution = next.resolution) ∧
    (back .standard [push, drag]).update = .error (.cycle ⟨["p", "q"], ["r"]⟩) ∧
    ∃ equation symbol phase, (back .strictStandard [push, drag]).update =
      .error (.unknownSymbol equation symbol phase) := by
  intro blocks drag lift push forth back
  have sameBlocks : (Library.ofUses blocks).pairs.Perm (Library.ofUses blocks.reverse).pairs := by
    apply Library.of_blocks_perm
    · decide
    · exact blocks.reverse_perm.symm.map _
  have outcomes := fun (config : Config) (equations : List Equation) =>
    update_of_reordered (forth config equations) (back config equations) rfl sameBlocks
      equations.reverse_perm.symm
  refine ⟨?_, ?_, ?_⟩
  · have evaluated : (forth .standard [drag, lift]).update.map
        (fun group => group.resolution.precomputed.names) = .ok ["b", "a"] := by
      decide +kernel
    obtain ⟨next, updated, names⟩ := (except_map_eq_ok_iff ..).1 evaluated
    exact ⟨next, updated, names, ((outcomes _ _).1 _).1 ⟨next, updated, rfl⟩⟩
  · have evaluated : (forth .standard [push, drag]).update.map Group.equations =
        .error (.cycle ⟨["p", "q"], ["r"]⟩) := by
      decide +kernel
    exact ((outcomes _ _).2.1 _).1 ((except_map_eq_error_iff ..).1 evaluated)
  · have evaluated : (forth .strictStandard [push, drag]).update.map Group.equations =
        .error (.unknownSymbol "Push" "?" .perPair) := by
      decide +kernel
    exact (outcomes _ _).2.2.1.1 ⟨_, _, _, (except_map_eq_error_iff ..).1 evaluated⟩

end Group

end PairLoop
