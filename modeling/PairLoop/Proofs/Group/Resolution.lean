import PairLoop.Group.Basic
import PairLoop.Proofs.Dependency.Reach
import PairLoop.Proofs.Dependency.Weight

/-!
What a resolution holds. Its blocks are those that the pair code needs, by way of the uses of other
blocks, and they are arranged so that each stands behind those that it uses.
-/

namespace PairLoop

open Relation Dependency

namespace Library

/-- A block is needed if uses lead to it from an argument of the pair code of some equation. -/
def Needs (library : Library) (receiver : String) (equations : List Equation) (name : String) :
    Prop :=
  name ∈ library.names ∧ ∃ equation ∈ equations, ∃ argument ∈ equation.arguments .perPair receiver,
    ReflTransGen library.Uses argument name

/-- Names are arranged if no name comes twice and each stands behind the blocks that it uses. -/
structure Arranged (library : Library) (names : List String) : Prop where
  distinct : names.Nodup
  used_before : ∀ before name after, names = before ++ name :: after →
    ∀ used ∈ library.names, library.Uses name used → used ≠ name → used ∈ before

theorem Arranged.mem_of_uses {library : Library} {names : List String}
    (arranged : library.Arranged names) (name used : String) (listed : name ∈ names)
    (available : used ∈ library.names) (uses : library.Uses name used) (different : used ≠ name) :
    used ∈ names := by
  obtain ⟨before, after, split⟩ := List.append_of_mem listed
  have earlier := arranged.used_before before name after split used available uses different
  rw [split]
  exact List.mem_append_left _ earlier

theorem needs_of_uses (library : Library) (receiver : String) (equations : List Equation)
    (name used : String) (needed : library.Needs receiver equations name)
    (uses : library.Uses name used) (available : used ∈ library.names) :
    library.Needs receiver equations used := by
  rcases needed with ⟨_, equation, listed, argument, taken, path⟩
  exact ⟨available, equation, listed, argument, taken, path.tail uses⟩

end Library

namespace Resolution

theorem mem_pair_arguments_iff (receiver : String) (equations : List Equation) (name : String) :
    name ∈ (pairArguments receiver equations).map Prod.snd ↔
      ∃ equation ∈ equations, name ∈ equation.arguments .perPair receiver := by
  simp [pairArguments]

/-- The closure of the arguments of pair code holds the blocks that are needed. -/
theorem mem_closure_arguments_iff (library : Library) (receiver : String)
    (equations : List Equation) (name : String) :
    name ∈ library.closure ((pairArguments receiver equations).map Prod.snd) ↔
      library.Needs receiver equations name := by
  rw [Library.mem_closure_iff]
  apply and_congr_right
  intro _
  constructor
  · intro reached
    rcases reached with ⟨argument, given, path⟩
    obtain ⟨equation, listed, taken⟩ := (mem_pair_arguments_iff ..).1 given
    exact ⟨equation, listed, argument, taken, path⟩
  · intro needed
    rcases needed with ⟨equation, listed, argument, taken, path⟩
    exact ⟨argument, (mem_pair_arguments_iff ..).2 ⟨equation, listed, taken⟩, path⟩

/-- The settings demand that every argument is supplied, and the pair code takes one that is
not. -/
def Refused (library : Library) (config : Config) (equations : List Equation) : Prop :=
  config.strict = true ∧ ∃ equation ∈ equations,
    ∃ argument ∈ equation.arguments .perPair config.receiver, isKnown library argument = false

/-- The schedule of the blocks that the pair code needs. -/
def neededSchedule (library : Library) (config : Config) (equations : List Equation) :
    Except CycleError Schedule :=
  library.schedule
    (library.closure ((pairArguments config.receiver equations).map Prod.snd)).toList

theorem unknown_argument_is_some_iff (library : Library) (receiver : String)
    (equations : List Equation) :
    (unknownArgument? library (pairArguments receiver equations)).isSome = true ↔
      ∃ equation ∈ equations, ∃ argument ∈ equation.arguments .perPair receiver,
        isKnown library argument = false := by
  simp [unknownArgument?, pairArguments]

theorem order_of_unknown (library : Library) (config : Config) (equations : List Equation)
    (strict : config.strict = true) (equation : Equation) (symbol : String)
    (found : unknownArgument? library (pairArguments config.receiver equations) =
      some (equation, symbol)) :
    order library config equations =
      .error (.unknownSymbol equation.displayName symbol .perPair) := by
  unfold order
  simp only [strict, if_true, found]

theorem order_of_refused (library : Library) (config : Config) (equations : List Equation)
    (refused : Refused library config equations) :
    ∃ equation symbol,
      order library config equations = .error (.unknownSymbol equation symbol .perPair) := by
  rcases refused with ⟨strict, unknown⟩
  obtain ⟨⟨equation, symbol⟩, found⟩ :=
    Option.isSome_iff_exists.1 ((unknown_argument_is_some_iff library _ equations).2 unknown)
  exact ⟨equation.displayName, symbol,
    order_of_unknown library config equations strict equation symbol found⟩

theorem order_of_not_refused (library : Library) (config : Config) (equations : List Equation)
    (accepted : ¬ Refused library config equations) :
    order library config equations =
      match neededSchedule library config equations with
      | .error error => .error (.cycle error)
      | .ok schedule => .ok schedule.order := by
  have nothing : (if config.strict then
      unknownArgument? library (pairArguments config.receiver equations) else none) = none := by
    by_cases strict : config.strict = true
    · rw [if_pos strict, ← Option.not_isSome_iff_eq_none, unknown_argument_is_some_iff]
      exact fun unknown => accepted ⟨strict, unknown⟩
    · rw [if_neg strict]
  unfold order
  simp only [nothing]
  rfl

theorem resolve_of_refused (library : Library) (config : Config) (equations : List Equation)
    (refused : Refused library config equations) :
    ∃ equation symbol,
      resolve library config equations = .error (.unknownSymbol equation symbol .perPair) := by
  obtain ⟨equation, symbol, failed⟩ := order_of_refused library config equations refused
  exact ⟨equation, symbol, by simp [resolve, failed, Except.map]⟩

theorem resolve_of_not_refused (library : Library) (config : Config) (equations : List Equation)
    (accepted : ¬ Refused library config equations) :
    resolve library config equations =
      match neededSchedule library config equations with
      | .error error => .error (.cycle error)
      | .ok schedule => .ok (ofOrder library equations schedule.order) := by
  unfold resolve
  rw [order_of_not_refused library config equations accepted]
  cases neededSchedule library config equations with
  | error error => rfl
  | ok schedule => rfl

/-- An unknown name is reported exactly if the settings and the pair code are at odds. -/
theorem exists_unknown_symbol_iff (library : Library) (config : Config)
    (equations : List Equation) :
    (∃ equation symbol phase,
      resolve library config equations = .error (.unknownSymbol equation symbol phase)) ↔
        Refused library config equations := by
  constructor
  · intro reported
    by_contra accepted
    rcases reported with ⟨equation, symbol, phase, failed⟩
    rw [resolve_of_not_refused library config equations accepted] at failed
    cases found : neededSchedule library config equations with
    | error error => simp [found] at failed
    | ok schedule => simp [found] at failed
  · intro refused
    obtain ⟨equation, symbol, failed⟩ := resolve_of_refused library config equations refused
    exact ⟨equation, symbol, .perPair, failed⟩

theorem order_eq_ok_iff (library : Library) (config : Config) (equations : List Equation)
    (names : List String) :
    order library config equations = .ok names ↔
      ¬ Refused library config equations ∧
        ∃ schedule, neededSchedule library config equations = .ok schedule ∧
          names = schedule.order := by
  by_cases refused : Refused library config equations
  · obtain ⟨equation, symbol, failed⟩ := order_of_refused library config equations refused
    simp [failed, refused]
  · rw [order_of_not_refused library config equations refused]
    cases neededSchedule library config equations with
    | error error => simp
    | ok schedule => simp [refused, eq_comm]

theorem exists_schedule_of_order (library : Library) (config : Config)
    (equations : List Equation) (names : List String)
    (ordered : order library config equations = .ok names) :
    ∃ schedule, names = schedule.order ∧
      neededSchedule library config equations = .ok schedule := by
  obtain ⟨_, schedule, scheduled, same⟩ := (order_eq_ok_iff ..).1 ordered
  exact ⟨schedule, same, scheduled⟩

theorem mem_order_iff_needs (library : Library) (config : Config) (equations : List Equation)
    (names : List String) (ordered : order library config equations = .ok names) (name : String) :
    name ∈ names ↔ library.Needs config.receiver equations name := by
  obtain ⟨schedule, rfl, scheduled⟩ := exists_schedule_of_order library config equations names
    ordered
  rw [Dependency.mem_order_iff scheduled, Library.mem_requested_iff, List.mem_filter,
    NameSet.mem_to_list, mem_closure_arguments_iff, Bindings.contains_iff]
  exact and_iff_left_of_imp And.left

theorem available_of_order (library : Library) (config : Config) (equations : List Equation)
    (names : List String) (ordered : order library config equations = .ok names) :
    ∀ name ∈ names, name ∈ library.names := by
  intro name listed
  exact ((mem_order_iff_needs library config equations names ordered name).1 listed).1

theorem order_arranged (library : Library) (config : Config) (equations : List Equation)
    (names : List String) (ordered : order library config equations = .ok names) :
    library.Arranged names := by
  have needed := mem_order_iff_needs library config equations names ordered
  obtain ⟨schedule, rfl, scheduled⟩ := exists_schedule_of_order library config equations names
    ordered
  refine ⟨order_nodup scheduled, ?_⟩
  intro before name after split used available uses different
  have listed : name ∈ schedule.order := by simp [split]
  have usedListed : used ∈ schedule.order := by
    rw [needed] at listed ⊢
    exact Library.needs_of_uses library _ _ name used listed uses available
  apply mem_before_of_depends scheduled before after name used split
  rw [Dependency.mem_order_iff scheduled] at listed usedListed
  exact ⟨listed, usedListed, (Library.mem_symbols_of ..).2 uses, different⟩

section Blocks

variable (library : Library) (names : List String)

theorem names_of_bound (available : ∀ name ∈ names, name ∈ library.names) :
    (names.filterMap fun name =>
      (library.find? name).map fun block => (name, block)).map Prod.fst = names := by
  have found : ∀ name ∈ names,
      ((library.find? name).map fun block => (name, block)).map Prod.fst = some name := by
    intro name listed
    obtain ⟨block, found⟩ := Bindings.exists_find library name (available name listed)
    simp [found]
  rw [List.map_filterMap, List.filterMap_congr found, List.filterMap_some]

theorem blocks_of_pairs (distinct : names.Nodup)
    (available : ∀ name ∈ names, name ∈ library.names) :
    (blocksOf library names).pairs =
      names.filterMap fun name => (library.find? name).map fun block => (name, block) := by
  apply Bindings.of_list_pairs
  rw [names_of_bound library names available]
  exact distinct

theorem blocks_of_names (distinct : names.Nodup)
    (available : ∀ name ∈ names, name ∈ library.names) :
    (blocksOf library names).names = names := by
  unfold Bindings.names
  rw [blocks_of_pairs library names distinct available, names_of_bound library names available]

theorem blocks_of_find (distinct : names.Nodup)
    (available : ∀ name ∈ names, name ∈ library.names) (name : String) (listed : name ∈ names) :
    (blocksOf library names).find? name = library.find? name := by
  obtain ⟨block, found⟩ := Bindings.exists_find library name (available name listed)
  rw [found]
  apply Bindings.find_of_mem
  rw [blocks_of_pairs library names distinct available]
  exact List.mem_filterMap.2 ⟨name, listed, by simp [found]⟩

end Blocks

theorem of_order_names (library : Library) (config : Config) (equations : List Equation)
    (names : List String) (ordered : order library config equations = .ok names) :
    (ofOrder library equations names).precomputed.names = names := by
  have arranged := order_arranged library config equations names ordered
  exact blocks_of_names library names arranged.distinct
    (available_of_order library config equations names ordered)

end Resolution

end PairLoop
