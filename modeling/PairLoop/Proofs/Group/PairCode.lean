import PairLoop.Group.Code
import PairLoop.Proofs.Group.Resolution
import PairLoop.Proofs.Group.Update

/-!
Pair code by its parts. A part is the fragment of a block, the call of an equation or an empty
line, and reads certain names. A block that is read has its fragment once, above all its readers.
-/

namespace PairLoop

open Relation

/-- A part of pair code. -/
inductive PairPart
  | fragment (name : String)
  | call (equation : Equation)
  | blank
deriving DecidableEq

namespace PairPart

/-- The names that a part reads. A fragment that mentions its own name computes it. -/
def Reads (library : Library) (receiver : String) : PairPart → String → Prop
  | fragment name, used => library.Uses name used ∧ used ≠ name
  | call equation, used => used ∈ equation.arguments .perPair receiver
  | blank, _ => False

def text (library : Library) (receiver : String) : PairPart → String
  | fragment name =>
    match library.find? name with
    | some block => String.ofList (Unicode.trim block.code.toList)
    | none => ""
  | call equation =>
    receiver ++ "." ++ equation.variableName ++ ".loop(" ++
      String.intercalate ", " (equation.arguments .perPair receiver) ++ ")"
  | blank => ""

/-- The empty line behind parts, unless there are none. -/
def gap (parts : List PairPart) : List PairPart := if parts.isEmpty then [] else [.blank]

/-- The calls of the equations that have pair code. -/
def calls (equations : List Equation) : List PairPart :=
  (equations.filter fun equation => equation.hasBehavior .perPair).map .call

/-- The parts behind the fragments. -/
def below (names : List String) (equations : List Equation) : List PairPart :=
  gap (names.map .fragment) ++ (calls equations ++ gap (calls equations))

/-- The parts of pair code in order. -/
def layout (names : List String) (equations : List Equation) : List PairPart :=
  names.map .fragment ++ below names equations

theorem eq_blank_of_mem_gap (parts : List PairPart) (part : PairPart) (member : part ∈ gap parts) :
    part = blank := by
  unfold gap at member
  split at member
  · exact absurd member List.not_mem_nil
  · exact List.mem_singleton.1 member

theorem eq_blank_or_call_of_mem_below (names : List String) (equations : List Equation)
    (part : PairPart) (member : part ∈ below names equations) :
    part = blank ∨ ∃ equation ∈ equations, part = call equation := by
  unfold below at member
  rw [List.mem_append, List.mem_append] at member
  rcases member with inGap | inCalls | inGap
  · exact .inl (eq_blank_of_mem_gap _ part inGap)
  · obtain ⟨equation, listed, same⟩ := List.mem_map.1 inCalls
    exact .inr ⟨equation, List.mem_of_mem_filter listed, same.symm⟩
  · exact .inl (eq_blank_of_mem_gap _ part inGap)

theorem fragment_not_mem_below (names : List String) (equations : List Equation) (name : String) :
    fragment name ∉ below names equations := by
  intro member
  rcases eq_blank_or_call_of_mem_below names equations _ member with same | ⟨equation, _, same⟩
  · exact PairPart.noConfusion same
  · exact PairPart.noConfusion same

theorem fragment_mem_layout (names : List String) (equations : List Equation) (name : String) :
    fragment name ∈ layout names equations ↔ name ∈ names := by
  rw [layout, List.mem_append, or_iff_left (fragment_not_mem_below names equations name)]
  simp

theorem call_mem_layout (names : List String) (equations : List Equation) (equation : Equation)
    (member : call equation ∈ layout names equations) : equation ∈ equations := by
  rcases List.mem_append.1 member with inFragments | inBelow
  · obtain ⟨name, _, impossible⟩ := List.mem_map.1 inFragments
    exact PairPart.noConfusion impossible
  · rcases eq_blank_or_call_of_mem_below names equations _ inBelow with same | ⟨other, listed, same⟩
    · exact PairPart.noConfusion same
    · cases same
      exact listed

theorem count_fragment_layout (names : List String) (equations : List Equation) (name : String)
    (distinct : names.Nodup) (listed : name ∈ names) :
    (layout names equations).count (fragment name) = 1 := by
  have injective : Function.Injective fragment := by
    intro first second same
    cases same
    rfl
  rw [layout, List.count_append, List.count_map_of_injective _ _ injective,
    List.count_eq_one_of_mem distinct listed,
    List.count_eq_zero_of_not_mem (fragment_not_mem_below names equations name)]

section Reading

variable (library : Library) (receiver : String) (names : List String) (equations : List Equation)

theorem read_mem_names (arranged : library.Arranged names)
    (called : ∀ equation ∈ equations, ∀ used ∈ equation.arguments .perPair receiver,
      used ∈ library.names → used ∈ names)
    (reader : PairPart) (member : reader ∈ layout names equations) (used : String)
    (available : used ∈ library.names) (reads : reader.Reads library receiver used) :
    used ∈ names := by
  cases reader with
  | fragment name =>
    have listed := (fragment_mem_layout names equations name).1 member
    exact arranged.mem_of_uses name used listed available reads.1 reads.2
  | call equation =>
    have listed := call_mem_layout names equations equation member
    exact called equation listed used reads available
  | blank => exact reads.elim

/-- A reader of a block stands among the fragments, behind the block's own, or below them all. -/
theorem fragment_above_reader (arranged : library.Arranged names)
    (called : ∀ equation ∈ equations, ∀ used ∈ equation.arguments .perPair receiver,
      used ∈ library.names → used ∈ names)
    (above : List PairPart) (reader : PairPart) (rest : List PairPart)
    (split : layout names equations = above ++ reader :: rest) (used : String)
    (available : used ∈ library.names) (reads : reader.Reads library receiver used) :
    used ∈ names ∧ fragment used ∈ above := by
  have member : reader ∈ layout names equations := by simp [split]
  have listed := read_mem_names library receiver names equations arranged called reader member
    used available reads
  have inFragments : fragment used ∈ names.map fragment := List.mem_map_of_mem listed
  refine ⟨listed, ?_⟩
  rcases List.append_eq_append_iff.1 split with ⟨more, aboveEq, _⟩ | ⟨more, fragments, restEq⟩
  · rw [aboveEq]
    exact List.mem_append_left more inFragments
  · cases more with
    | nil =>
      rw [List.append_nil] at fragments
      rw [← fragments]
      exact inFragments
    | cons head tail =>
      rw [List.cons_append, List.cons.injEq] at restEq
      rw [← restEq.1] at fragments
      obtain ⟨before, others, rfl, beforeEq, othersEq⟩ := List.map_eq_append_iff.1 fragments
      obtain ⟨name, after, rfl, readerEq, _⟩ := List.map_eq_cons_iff.1 othersEq
      subst readerEq
      rw [← beforeEq]
      apply List.mem_map_of_mem
      exact arranged.used_before before name after rfl used available reads.1 reads.2

end Reading

section Text

variable (library : Library) (receiver : String)

theorem paragraph_eq (parts : List PairPart) :
    Group.paragraph (parts.map fun part => (part.text library receiver).toList) =
      (parts ++ gap parts).map fun part => (part.text library receiver).toList := by
  unfold Group.paragraph gap
  cases parts with
  | nil => rfl
  | cons part others => simp [text]

theorem stub_eq (equation : Equation) (behavior : Behavior)
    (behaves : equation.behavior? .perPair = some behavior) :
    Group.stub receiver equation .perPair behavior =
      ((call equation).text library receiver).toList := by
  simp [Group.stub, text, Equation.arguments, behaves, Phase.method]

theorem stubs_eq (group : Group) :
    group.stubs .perPair =
      (calls group.equations).map fun part =>
        (part.text library group.config.receiver).toList := by
  unfold Group.stubs calls
  induction group.equations with
  | nil => rfl
  | cons equation rest induction =>
    rw [List.filterMap_cons, induction, List.filter_cons, Equation.hasBehavior]
    cases behaves : equation.behavior? .perPair with
    | none => simp
    | some behavior => simp [stub_eq library _ equation behavior behaves]

theorem fragments_eq (group : Group) (names : List String) (distinct : names.Nodup)
    (available : ∀ name ∈ names, name ∈ library.names)
    (blocks : group.resolution.precomputed = Resolution.blocksOf library names) :
    group.fragments =
      (names.map fragment).map fun part => (part.text library receiver).toList := by
  have trimmed : ∀ name ∈ names,
      ((library.find? name).map fun block => (name, block)).map
        (fun pair => Unicode.trim pair.2.code.toList) =
          some ((fragment name).text library receiver).toList := by
    intro name listed
    obtain ⟨block, found⟩ := Bindings.exists_find library name (available name listed)
    simp [found, text]
  unfold Group.fragments Bindings.values
  rw [blocks, Resolution.blocks_of_pairs library names distinct available, List.map_map,
    Function.comp_def, List.map_filterMap, List.filterMap_congr trimmed, List.filterMap_eq_map',
    List.map_map]
  rfl

/-- Pair code consists of the parts of its layout. -/
theorem code_eq_layout (group : Group) (names : List String) (distinct : names.Nodup)
    (available : ∀ name ∈ names, name ∈ library.names)
    (blocks : group.resolution.precomputed = Resolution.blocksOf library names) :
    group.code .perPair none =
      String.intercalate "\n" ((layout names group.equations).map
        (text library group.config.receiver)) := by
  have texts : group.codeParts .perPair =
      (layout names group.equations).map fun part =>
        (part.text library group.config.receiver).toList := by
    unfold Group.codeParts layout below
    rw [if_pos rfl, fragments_eq library group.config.receiver group names distinct available blocks,
      stubs_eq library, paragraph_eq, paragraph_eq]
    simp only [List.map_append, List.append_assoc]
  apply String.toList_inj.1
  unfold Group.code Kernel.substitute Kernel.fillOptional
  rw [texts, String.toList_ofList, String.toList_ofList, String.toList_intercalate, List.map_map]
  rfl

end Text

end PairPart

namespace Group

/-- After a construction or an update, the blocks are those that the pair code of the equations
needs, each once and behind all that it uses. The pair code is their fragments in this order and
then the calls of the equations, and whatever is read and has a block has its fragment above. -/
theorem pair_code_arranged (library : Library) (config : Config) (equations : List Equation)
    (group : Group)
    (resolved : assemble library config equations = .ok group ∨
      ∃ stale : Group, stale.library = library ∧ stale.config = config ∧
        stale.equations = equations ∧ stale.update = .ok group) :
    let names := group.resolution.precomputed.names
    let parts := PairPart.layout names group.equations
    names.Nodup ∧
    (∀ name, name ∈ names ↔ name ∈ library.names ∧ ∃ equation ∈ equations,
      ∃ argument ∈ equation.arguments .perPair config.receiver,
        ReflTransGen library.Uses argument name) ∧
    (∀ name ∈ names, group.resolution.precomputed.find? name = library.find? name) ∧
    (∀ before name after, names = before ++ name :: after →
      ∀ used ∈ library.names, library.Uses name used → used ≠ name → used ∈ before) ∧
    group.equations.map Equation.unnamed = equations.map Equation.unnamed ∧
    group.code .perPair none =
      String.intercalate "\n" (parts.map (PairPart.text library config.receiver)) ∧
    (∀ above reader below, parts = above ++ reader :: below →
      ∀ used ∈ library.names, reader.Reads library config.receiver used →
        parts.count (.fragment used) = 1 ∧ .fragment used ∈ above) := by
  obtain ⟨resolution, found, rfl⟩ := eq_of_assembled_or_updated library config equations group
    resolved
  obtain ⟨order, ordered, rfl⟩ := (Resolution.resolve_eq_ok_iff ..).1 found
  have needed := Resolution.mem_order_iff_needs library config equations order ordered
  have arranged := Resolution.order_arranged library config equations order ordered
  have available : ∀ name ∈ order, name ∈ library.names := by
    intro name listed
    exact ((needed name).1 listed).1
  have blocks : (Resolution.ofOrder library equations order).precomputed =
      Resolution.blocksOf library order := rfl
  have names : (Resolution.ofOrder library equations order).precomputed.names = order := by
    rw [blocks]
    exact Resolution.blocks_of_names library order arranged.distinct available
  simp only [names]
  refine ⟨arranged.distinct, needed, ?_, arranged.used_before, ?_, ?_, ?_⟩
  · intro name listed
    exact Resolution.blocks_of_find library order arranged.distinct available name listed
  · exact unnamed_name_variables [] equations
  · exact PairPart.code_eq_layout library _ order arranged.distinct available blocks
  · intro above reader below split used present reads
    have called : ∀ equation ∈ nameVariables [] equations,
        ∀ used ∈ equation.arguments .perPair config.receiver, used ∈ library.names →
          used ∈ order := by
      intro equation listed argument taken known
      obtain ⟨original, given, same⟩ := exists_of_mem_name_variables [] equations equation listed
      rw [← Equation.arguments_unnamed, ← same, Equation.arguments_unnamed] at taken
      exact (needed argument).2 ⟨known, original, given, argument, taken, .refl⟩
    obtain ⟨listed, inAbove⟩ := PairPart.fragment_above_reader library config.receiver order _
      arranged called above reader below split used present reads
    exact ⟨PairPart.count_fragment_layout order _ used arranged.distinct listed, inAbove⟩

/-- The block "c" is read by the block "b" and by the call, and "a" mentions itself. -/
theorem pair_code_arranged_of_shared_block :
    let library := Library.ofUses [("a", ["a", "b", "d_x"]), ("b", ["c"]), ("c", []), ("d", ["a"])]
    let equation := (Equation.ofClass "Drag" "fluid" ["fluid"]).withBehavior .perPair
      ["self", "a", "c", "unknown"]
    ∃ group, assemble library .standard [equation] = .ok group ∧
      group.resolution.precomputed.names = ["c", "b", "a"] ∧
      ∀ above reader below,
        PairPart.layout ["c", "b", "a"] group.equations = above ++ reader :: below →
          ∀ used ∈ library.names, reader.Reads library "self" used →
            (PairPart.layout ["c", "b", "a"] group.equations).count (.fragment used) = 1 ∧
              .fragment used ∈ above := by
  intro library equation
  have evaluated : (assemble library .standard [equation]).map
      (fun group => group.resolution.precomputed.names) = .ok ["c", "b", "a"] := by
    decide +kernel
  obtain ⟨group, assembled, names⟩ := (except_map_eq_ok_iff ..).1 evaluated
  refine ⟨group, assembled, names, ?_⟩
  rw [← names]
  exact (pair_code_arranged library .standard [equation] group (.inl assembled)).2.2.2.2.2.2

end Group

end PairLoop
