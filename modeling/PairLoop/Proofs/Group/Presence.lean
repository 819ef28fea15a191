import PairLoop.Group.Code
import PairLoop.Proofs.Group.Resolution
import PairLoop.Proofs.Group.Update
import PairLoop.Proofs.Kernel.Tokens

/-!
Whether there is code for a phase. The predicate asks the equations and the text has fragments too,
but blocks are resolved for the pair code of some equation only. A text that is not empty has two
parts at least, and the line feed between them stays whatever a kernel puts in.
-/

namespace PairLoop.Group

section Parts

variable (group : Group) (phase : Phase) (kernel : Option Kernel)

theorem stubs_eq_nil_iff : group.stubs phase = [] ↔ group.hasCode phase = false := by
  simp [stubs, hasCode, Equation.hasBehavior]

theorem paragraph_eq_nil_or_long (lines : List (List Char)) :
    paragraph lines = [] ∨ 2 ≤ (paragraph lines).length := by
  cases lines with
  | nil => exact .inl rfl
  | cons line rest => exact .inr (by simp [paragraph])

theorem paragraph_eq_nil_iff (lines : List (List Char)) : paragraph lines = [] ↔ lines = [] := by
  cases lines <;> simp [paragraph]

theorem code_parts_eq_nil_or_long :
    group.codeParts phase = [] ∨ 2 ≤ (group.codeParts phase).length := by
  unfold codeParts
  rw [List.append_eq_nil_iff, List.length_append]
  have fragments : (if phase = .perPair then paragraph group.fragments else []) = [] ∨
      2 ≤ (if phase = .perPair then paragraph group.fragments else []).length := by
    split
    · exact paragraph_eq_nil_or_long group.fragments
    · exact .inl rfl
  have stubs := paragraph_eq_nil_or_long (group.stubs phase)
  rcases fragments with none | many
  · rcases stubs with noneEither | manyStubs
    · exact .inl ⟨none, noneEither⟩
    · exact .inr (by omega)
  · exact .inr (by omega)

theorem code_parts_eq_nil_iff :
    group.codeParts phase = [] ↔
      (phase = .perPair → group.fragments = []) ∧ group.hasCode phase = false := by
  unfold codeParts
  rw [List.append_eq_nil_iff, paragraph_eq_nil_iff, stubs_eq_nil_iff]
  by_cases paired : phase = .perPair
  · simp [paired, paragraph_eq_nil_iff]
  · simp [paired]

/-- No replacement takes a line feed away. -/
theorem line_feed_kept (config : Config) (first rest : List Char) :
    Kernel.fillOptional config (first ++ '\n' :: rest) kernel ≠ [] := by
  cases kernel with
  | none => exact List.append_ne_nil_of_right_ne_nil first (List.cons_ne_nil _ _)
  | some kernel =>
    rw [Kernel.fillOptional, kernel.fill_separator config first rest '\n' (by decide)]
    exact List.append_ne_nil_of_right_ne_nil _ (List.cons_ne_nil _ _)

theorem code_eq_empty_iff : group.code phase kernel = "" ↔ group.codeParts phase = [] := by
  unfold code Kernel.substitute
  rw [← String.toList_inj, String.toList_ofList, String.toList_ofList]
  constructor
  · intro empty
    rcases group.code_parts_eq_nil_or_long phase with none | many
    · exact none
    · obtain ⟨line, next, rest, split⟩ : ∃ line next rest,
          group.codeParts phase = line :: next :: rest := by
        match group.codeParts phase, many with
        | line :: next :: rest, _ => exact ⟨line, next, rest, rfl⟩
      rw [split, List.intercalate_cons_cons, List.append_assoc] at empty
      exact absurd empty (line_feed_kept kernel group.config line _)
  · intro none
    rw [none]
    cases kernel <;> rfl

end Parts

/-- A group that has just been resolved holds the resolution of its own equations. -/
theorem resolves_of_assembled_or_updated (library : Library) (config : Config)
    (equations : List Equation) (group : Group)
    (resolved : assemble library config equations = .ok group ∨
      ∃ stale : Group, stale.library = library ∧ stale.config = config ∧
        stale.equations = equations ∧ stale.update = .ok group) :
    Resolution.resolve group.library group.config group.equations = .ok group.resolution := by
  obtain ⟨resolution, found, rfl⟩ := eq_of_assembled_or_updated library config equations group
    resolved
  rw [Resolution.resolve_name_variables]
  exact found

/-- No block is needed where there is no pair code. -/
theorem fragments_of_no_pair_code (group : Group)
    (resolves :
      Resolution.resolve group.library group.config group.equations = .ok group.resolution)
    (absent : group.hasCode .perPair = false) : group.fragments = [] := by
  obtain ⟨order, ordered, same⟩ := (Resolution.resolve_eq_ok_iff ..).1 resolves
  have nothing : order = [] := by
    apply List.eq_nil_iff_forall_not_mem.2
    intro name listed
    obtain ⟨_, equation, member, argument, taken, _⟩ :=
      (Resolution.mem_order_iff_needs _ _ _ order ordered name).1 listed
    have unpaired : equation.behavior? .perPair = none := by
      have all := List.any_eq_false.1 absent equation member
      simpa [Equation.hasBehavior] using all
    rw [Equation.arguments, unpaired] at taken
    exact absurd taken List.not_mem_nil
  have names : group.resolution.precomputed.names = [] := by
    rw [← same, Resolution.of_order_names _ _ _ order ordered, nothing]
  have pairs : group.resolution.precomputed.pairs = [] := List.map_eq_nil_iff.1 names
  unfold fragments Bindings.values
  rw [pairs]
  rfl

/-- After a construction or an update there is code for a phase exactly if the text of the code is
not empty, with and without a kernel. -/
theorem has_code_iff_code_ne_empty (library : Library) (config : Config)
    (equations : List Equation) (group : Group)
    (resolved : assemble library config equations = .ok group ∨
      ∃ stale : Group, stale.library = library ∧ stale.config = config ∧
        stale.equations = equations ∧ stale.update = .ok group)
    (phase : Phase) (kernel : Option Kernel) :
    group.hasCode phase = true ↔ group.code phase kernel ≠ "" := by
  have resolves := resolves_of_assembled_or_updated library config equations group resolved
  rw [Ne, code_eq_empty_iff, code_parts_eq_nil_iff, ← Bool.not_eq_false, not_iff_not]
  constructor
  · intro absent
    refine ⟨?_, absent⟩
    rintro rfl
    exact fragments_of_no_pair_code group resolves absent
  · exact And.right

/-- The fragment of the only block is blank, the pair code takes no argument but this block, the
finalizing code none at all, and the kernel has no name. -/
theorem has_code_iff_code_ne_empty_of_blank_block :
    let block : CodeBlock := ⟨"GRADIENT", " \t", ∅, ∅, none⟩
    let config : Config := ⟨"", "", "", true⟩
    let equation := ((Equation.ofClass "" "fluid" []).withBehavior .perPair
      ["GRADIENT"]).withBehavior .finalize []
    ∃ group, assemble (.ofBlocks [block]) config [equation] = .ok group ∧
      group.fragments = [[]] ∧
      [Phase.setup, .perPair, .finalize].map group.hasCode = [false, true, true] ∧
      ∀ phase, group.hasCode phase = true ↔ group.code phase (some ⟨""⟩) ≠ "" := by
  intro block config equation
  have evaluated : (assemble (.ofBlocks [block]) config [equation]).map (fun group =>
      (group.fragments, [Phase.setup, .perPair, .finalize].map group.hasCode)) =
        .ok ([[]], [false, true, true]) := by
    decide +kernel
  obtain ⟨group, assembled, outcome⟩ := (except_map_eq_ok_iff ..).1 evaluated
  simp only [Prod.mk.injEq] at outcome
  refine ⟨group, assembled, outcome.1, outcome.2, ?_⟩
  intro phase
  exact has_code_iff_code_ne_empty _ config [equation] group (.inl assembled) phase (some ⟨""⟩)

end PairLoop.Group
