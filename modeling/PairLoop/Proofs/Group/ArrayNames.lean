import PairLoop.Group.Code
import PairLoop.Proofs.Group.Resolution
import PairLoop.Proofs.Group.Update

/-!
The arrays that a group reports, against those that its code mentions. Arguments are collected for
the report with the receiver among them, though it is left out wherever they are written, so a
receiver that is named like an array can be reported without standing for one.
-/

namespace PairLoop

namespace Equation

theorem mem_behaviors_iff (equation : Equation) (phase : Phase) (behavior : Behavior) :
    (phase, behavior) ∈ equation.behaviors ↔ equation.behavior? phase = some behavior := by
  have listed : phase ∈ Phase.all := by cases phase <;> decide
  unfold behaviors
  rw [List.mem_filterMap]
  constructor
  · rintro ⟨other, _, found⟩
    obtain ⟨given, behaves, same⟩ := Option.map_eq_some_iff.1 found
    cases same
    exact behaves
  · intro behaves
    exact ⟨phase, listed, by rw [behaves]; rfl⟩

theorem mem_arguments_iff (equation : Equation) (phase : Phase) (receiver name : String) :
    name ∈ equation.arguments phase receiver ↔ name ≠ receiver ∧
      ∃ behavior, equation.behavior? phase = some behavior ∧ name ∈ behavior.parameters := by
  unfold arguments
  cases equation.behavior? phase with
  | none => simp
  | some behavior => simp [Behavior.arguments, and_comm]

theorem mem_parameters_iff (equation : Equation) (name : String) :
    name ∈ equation.parameters ↔ ∃ phase behavior,
      equation.behavior? phase = some behavior ∧ name ∈ behavior.parameters := by
  unfold parameters
  rw [List.mem_flatMap]
  constructor
  · rintro ⟨⟨phase, behavior⟩, listed, member⟩
    exact ⟨phase, behavior, (mem_behaviors_iff ..).1 listed, member⟩
  · rintro ⟨phase, behavior, behaves, member⟩
    exact ⟨(phase, behavior), (mem_behaviors_iff ..).2 behaves, member⟩

/-- Of the parameters, all but the receiver are arguments in some phase. -/
theorem exists_arguments_iff (equation : Equation) (receiver name : String) :
    (∃ phase, name ∈ equation.arguments phase receiver) ↔
      name ∈ equation.parameters ∧ name ≠ receiver := by
  rw [mem_parameters_iff]
  constructor
  · rintro ⟨phase, given⟩
    obtain ⟨different, behavior, behaves, member⟩ := (mem_arguments_iff ..).1 given
    exact ⟨⟨phase, behavior, behaves, member⟩, different⟩
  · rintro ⟨⟨phase, behavior, behaves, member⟩, different⟩
    exact ⟨phase, (mem_arguments_iff ..).2 ⟨different, behavior, behaves, member⟩⟩

end Equation

namespace Resolution

theorem mem_block_symbols_iff (library : Library) (names : List String) (distinct : names.Nodup)
    (available : ∀ name ∈ names, name ∈ library.names) (symbol : String) :
    (∃ block ∈ (blocksOf library names).values, symbol ∈ block.symbols) ↔
      ∃ name ∈ names, library.Uses name symbol := by
  unfold Bindings.values
  rw [blocks_of_pairs library names distinct available]
  constructor
  · rintro ⟨block, listed, uses⟩
    obtain ⟨pair, bound, rfl⟩ := List.mem_map.1 listed
    obtain ⟨name, member, present⟩ := List.mem_filterMap.1 bound
    obtain ⟨block, found, rfl⟩ := Option.map_eq_some_iff.1 present
    exact ⟨name, member, block, found, uses⟩
  · rintro ⟨name, member, block, found, uses⟩
    refine ⟨block, List.mem_map.2 ⟨(name, block), ?_, rfl⟩, uses⟩
    exact List.mem_filterMap.2 ⟨name, member, by rw [found]; rfl⟩

theorem mem_mentioned_iff (equations : List Equation) (blocks : Bindings CodeBlock)
    (name : String) :
    name ∈ mentioned equations blocks ↔
      (∃ equation ∈ equations, name ∈ equation.parameters) ∨
        ∃ block ∈ blocks.values, name ∈ block.symbols := by
  unfold mentioned
  rw [NameSet.mem_union, NameSet.mem_of_list, NameSet.mem_union_all, List.mem_flatMap]
  simp only [List.mem_map, exists_exists_and_eq_and]

end Resolution

namespace Name

/-- A name with the mark of one side in front, and not the index of that side. -/
def IsArrayOf (mark index name : String) : Prop := mark.toList <+: name.toList ∧ name ≠ index

/-- The name of an array of either side. -/
def IsArray (name : String) : Prop :=
  IsArrayOf sourceMark sourceIndex name ∨ IsArrayOf destinationMark destinationIndex name

theorem is_source_array_iff (name : String) :
    isSourceArray name = true ↔ IsArrayOf sourceMark sourceIndex name := by
  simp [isSourceArray, isSource, begins, IsArrayOf]

theorem is_destination_array_iff (name : String) :
    isDestinationArray name = true ↔ IsArrayOf destinationMark destinationIndex name := by
  simp [isDestinationArray, isDestination, begins, IsArrayOf]

end Name

namespace Group

/-- An equation has the name among the parameters of a behavior, be it the receiver or not. -/
def Takes (group : Group) (name : String) : Prop :=
  ∃ equation ∈ group.equations, name ∈ equation.parameters

/-- The fragment of a resolved block has the name among its symbols. -/
def FragmentUses (group : Group) (name : String) : Prop :=
  ∃ block ∈ group.resolution.precomputed.names, group.library.Uses block name

/-- The code of a phase mentions a name: as an argument in an equation's call or in a fragment. -/
def Mentions (group : Group) (name : String) : Prop :=
  (∃ equation ∈ group.equations, ∃ phase, name ∈ equation.arguments phase group.config.receiver) ∨
    group.FragmentUses name

/-- The reported arrays of either side are those among the given names. -/
def ReportsArrays (group : Group) (Given : String → Prop) : Prop :=
  (∀ name, name ∈ group.resolution.sourceArrays ↔
    Name.IsArrayOf Name.sourceMark Name.sourceIndex name ∧ Given name) ∧
  ∀ name, name ∈ group.resolution.destinationArrays ↔
    Name.IsArrayOf Name.destinationMark Name.destinationIndex name ∧ Given name

theorem reports_arrays_iff (group : Group) (First Second : String → Prop)
    (reported : group.ReportsArrays First) :
    group.ReportsArrays Second ↔ ∀ name, Name.IsArray name → (First name ↔ Second name) := by
  constructor
  · intro also name array
    rcases array with source | destination
    · have same := (reported.1 name).symm.trans (also.1 name)
      simpa only [source, true_and] using same
    · have same := (reported.2 name).symm.trans (also.2 name)
      simpa only [destination, true_and] using same
  · intro same
    constructor
    · intro name
      rw [reported.1]
      exact and_congr_right fun source => same name (.inl source)
    · intro name
      rw [reported.2]
      exact and_congr_right fun destination => same name (.inr destination)

theorem reports_arrays_of_names (group : Group) (names : NameSet)
    (source : group.resolution.sourceArrays = Name.sourceArrays names)
    (destination : group.resolution.destinationArrays = Name.destinationArrays names) :
    group.ReportsArrays (· ∈ names) := by
  constructor
  · intro name
    rw [source, Name.mem_source_arrays, Name.is_source_array_iff, and_comm]
  · intro name
    rw [destination, Name.mem_destination_arrays, Name.is_destination_array_iff, and_comm]

theorem mentions_iff (group : Group) (name : String) :
    group.Mentions name ↔
      (group.Takes name ∧ name ≠ group.config.receiver) ∨ group.FragmentUses name := by
  unfold Mentions Takes
  simp only [Equation.exists_arguments_iff, ← and_assoc, exists_and_right]

theorem mentions_receiver_iff (group : Group) :
    group.Mentions group.config.receiver ↔ group.FragmentUses group.config.receiver := by
  simp [mentions_iff]

/-- What is taken or used without being mentioned can only be the receiver. -/
theorem taken_or_used_iff (group : Group) (name : String) :
    group.Takes name ∨ group.FragmentUses name ↔
      group.Mentions name ∨ name = group.config.receiver ∧ group.Takes name := by
  rw [mentions_iff]
  by_cases receiver : name = group.config.receiver
  · simp [receiver, or_comm]
  · simp [receiver]

theorem receiver_harmless_iff (group : Group) :
    (∀ name, Name.IsArray name →
      (group.Mentions name ∨ name = group.config.receiver ∧ group.Takes name ↔
        group.Mentions name)) ↔
      ¬ (Name.IsArray group.config.receiver ∧ group.Takes group.config.receiver ∧
        ¬ group.FragmentUses group.config.receiver) := by
  simp only [or_iff_left_iff_imp]
  constructor
  · rintro mentioned ⟨array, taken, unused⟩
    exact unused ((mentions_receiver_iff group).1 (mentioned _ array ⟨rfl, taken⟩))
  · rintro harmless name array ⟨rfl, taken⟩
    by_contra unmentioned
    exact harmless ⟨array, taken, mt (mentions_receiver_iff group).2 unmentioned⟩

/-- The report looks at all parameters and at the symbols of all resolved blocks. -/
theorem reports_taken_or_used (group : Group)
    (found : Resolution.resolve group.library group.config group.equations =
      .ok group.resolution) :
    group.ReportsArrays fun name => group.Takes name ∨ group.FragmentUses name := by
  obtain ⟨order, ordered, same⟩ := (Resolution.resolve_eq_ok_iff ..).1 found
  have arranged := Resolution.order_arranged _ _ _ order ordered
  have available := Resolution.available_of_order _ _ _ order ordered
  have names : group.resolution.precomputed.names = order := by
    rw [← same]
    exact Resolution.of_order_names _ _ _ order ordered
  have mentioned : ∀ name, name ∈ Resolution.mentioned group.equations
      (Resolution.blocksOf group.library order) ↔ group.Takes name ∨ group.FragmentUses name := by
    intro name
    rw [Resolution.mem_mentioned_iff, Resolution.mem_block_symbols_iff _ order arranged.distinct
      available, Takes, FragmentUses, names]
  have reported : group.ReportsArrays (· ∈ Resolution.mentioned group.equations
      (Resolution.blocksOf group.library order)) := by
    apply reports_arrays_of_names
    · rw [← same]
      rfl
    · rw [← same]
      rfl
  exact (reports_arrays_iff _ _ _ reported).2 fun name _ => mentioned name

/-- After a construction or an update, the reported arrays are those that the code mentions, and the
receiver if it is named like an array and is a parameter of a behavior. So the report is that of the
code exactly if the receiver is not named like an array, or no behavior has it as a parameter, or
a resolved fragment uses it. -/
theorem array_names_of_resolved (library : Library) (config : Config) (equations : List Equation)
    (group : Group)
    (resolved : assemble library config equations = .ok group ∨
      ∃ stale : Group, stale.library = library ∧ stale.config = config ∧
        stale.equations = equations ∧ stale.update = .ok group) :
    group.equations.map Equation.unnamed = equations.map Equation.unnamed ∧
    group.ReportsArrays (fun name =>
      group.Mentions name ∨ name = config.receiver ∧ group.Takes name) ∧
    (group.ReportsArrays group.Mentions ↔
      ¬ (Name.IsArray config.receiver ∧ group.Takes config.receiver ∧
        ¬ group.FragmentUses config.receiver)) ∧
    (config.receiver ∈ group.resolution.sourceArrays ∨
        config.receiver ∈ group.resolution.destinationArrays ↔
      Name.IsArray config.receiver ∧
        (group.Takes config.receiver ∨ group.FragmentUses config.receiver)) := by
  obtain ⟨resolution, found, rfl⟩ := eq_of_assembled_or_updated library config equations group
    resolved
  rw [← Resolution.resolve_name_variables] at found
  have collected := reports_taken_or_used ⟨library, config, nameVariables [] equations, resolution⟩
    found
  have reported := (reports_arrays_iff _ _ _ collected).2 fun name _ => taken_or_used_iff _ name
  refine ⟨unnamed_name_variables [] equations, reported, ?_, ?_⟩
  · rw [reports_arrays_iff _ _ _ reported]
    exact receiver_harmless_iff _
  · rw [collected.1, collected.2, ← or_and_right]
    rfl

/-- The receiver is named like a source array that the block "b" uses, so it is reported rightly. -/
theorem array_names_of_resolved_with_used_receiver :
    let library := Library.ofUses [("a", ["b", "s_x", "d_y"]), ("b", ["d_idx", "s_m"])]
    let config : Config := { Config.standard with receiver := "s_m" }
    let equation := (Equation.ofClass "Drag" "fluid" ["fluid"]).withBehavior .perPair
      ["s_m", "s_idx", "s_p", "a"]
    ∃ group, assemble library config [equation] = .ok group ∧
      group.resolution.sourceArrays = .ofList ["s_m", "s_p", "s_x"] ∧
      group.resolution.destinationArrays = .ofList ["d_y"] ∧
      group.ReportsArrays group.Mentions := by
  intro library config equation
  have evaluated : (assemble library config [equation]).map
      (fun group => (group.resolution.precomputed.names, group.resolution.sourceArrays,
        group.resolution.destinationArrays)) =
        .ok (["b", "a"], .ofList ["s_m", "s_p", "s_x"], .ofList ["d_y"]) := by
    decide +kernel
  obtain ⟨group, assembled, parts⟩ := (except_map_eq_ok_iff ..).1 evaluated
  simp only [Prod.mk.injEq] at parts
  obtain ⟨names, source, destination⟩ := parts
  refine ⟨group, assembled, source, destination, ?_⟩
  apply (array_names_of_resolved library config [equation] group (.inl assembled)).2.2.1.2
  rintro ⟨_, _, unused⟩
  apply unused
  obtain ⟨resolution, _, rfl⟩ := eq_of_assembled_or_updated library config [equation] group
    (.inl assembled)
  have uses : library.Uses "b" "s_m" := (Library.mem_symbols_of ..).1 (by decide +kernel)
  exact ⟨"b", by rw [names]; decide, uses⟩

/-- The setup has its receiver among its parameters, which is named like a source array. The code
calls through it but passes no such array, and yet it is reported. -/
theorem receiver_reported_as_array :
    let config : Config := { Config.standard with receiver := "s_m" }
    let equation := (Equation.ofClass "Foo" "fluid" []).withBehavior .setup
      ["s_m", "d_idx", "d_rho"]
    ∃ group, assemble ∅ config [equation] = .ok group ∧
      group.code .setup none = "s_m.foo0.initialize(d_idx, d_rho)\n" ∧
      group.resolution.sourceArrays = .ofList ["s_m"] ∧
      ¬ group.Mentions "s_m" ∧ ¬ group.ReportsArrays group.Mentions := by
  intro config equation
  have evaluated : (assemble ∅ config [equation]).map
      (fun group => (group.config.receiver, group.resolution.precomputed.names,
        group.code .setup none, group.resolution.sourceArrays)) =
        .ok ("s_m", [], "s_m.foo0.initialize(d_idx, d_rho)\n", .ofList ["s_m"]) := by
    decide +kernel
  obtain ⟨group, assembled, parts⟩ := (except_map_eq_ok_iff ..).1 evaluated
  simp only [Prod.mk.injEq] at parts
  obtain ⟨receiver, names, code, source⟩ := parts
  have unmentioned : ¬ group.Mentions "s_m" := by
    rw [mentions_iff, receiver, FragmentUses, names]
    simp
  refine ⟨group, assembled, code, source, unmentioned, ?_⟩
  intro reported
  have collected : "s_m" ∈ group.resolution.sourceArrays := by
    rw [source]
    decide
  exact unmentioned ((reported.1 "s_m").1 collected).2

end Group

end PairLoop
