import PairLoop.Library.SelfTest
import PairLoop.Proofs.Dependency.Levels
import PairLoop.Proofs.Group.Reordering

/-!
The self test told without a schedule. The outcome of a block is that of its evaluation on the given
values and on those that its dependencies have given themselves, and so on. Where no block depends
on itself, this determines all outcomes, and every way through the blocks that takes dependencies
first comes to them.
-/

namespace PairLoop.Library

open Dependency

/-- What is known of the evaluation of each name: nothing if it is not evaluated. -/
abbrev Outcomes := String → Option (Except EvalError Context)

/-- The names that have a value, each with its own. -/
def tabulate {Value : Type} (values : String → Option Value) (names : List String) :
    List (String × Value) :=
  names.filterMap fun name => (values name).map fun value => (name, value)

/-- The value that a name's own outcome gives it: the evaluation has succeeded and binds the name. -/
def ownValue? (outcomes : Outcomes) (name : String) : Option Value :=
  match outcomes name with
  | some (.ok context) => context.find? name
  | some (.error _) => none
  | none => none

/-- The names that a block uses, itself excepted, in ascending order and each with the value that its
own outcome gives it. Names without such a value are left out. -/
def upstream (outcomes : Outcomes) (name : String) (symbols : NameSet) : List (String × Value) :=
  tabulate (ownValue? outcomes) (symbols.erase name).toList

/-- The outcome of a name, told by the outcomes of others: a block that can be evaluated is evaluated
on the given values overlaid with those from upstream. -/
def outcomeFrom (library : Library) (given : Context) (outcomes : Outcomes) : Outcomes :=
  fun name =>
    match library.find? name with
    | some block =>
      if block.isEvaluable then
        some (block.evaluate (given.insertAll (upstream outcomes name block.symbols)))
      else none
    | none => none

/-- Every outcome is told by the others. -/
def IsRecursive (library : Library) (given : Context) (outcomes : Outcomes) : Prop :=
  ∀ name, outcomes name = library.outcomeFrom given outcomes name

/-- The outcomes of the blocks in the order of registration. -/
def answers (library : Library) (outcomes : Outcomes) :
    List (String × Except EvalError Context) :=
  tabulate outcomes library.names

/-- Behind the names that are done already, each level holds names that depend on names of earlier
levels only. -/
def Layered (library : Library) : List String → List (List String) → Prop
  | _, [] => True
  | done, level :: rest =>
    (∀ name ∈ level, ∀ used, Depends library.symbolsOf library.names name used → used ∈ done) ∧
      library.Layered (done ++ level) rest

section Tabulate

variable {Value : Type} (values : String → Option Value)

theorem tabulate_cons_none (name : String) (rest : List String) (absent : values name = none) :
    tabulate values (name :: rest) = tabulate values rest := by
  rw [tabulate, List.filterMap_cons_none (by rw [absent, Option.map_none])]
  rfl

theorem tabulate_cons_some (name : String) (rest : List String) (value : Value)
    (known : values name = some value) :
    tabulate values (name :: rest) = (name, value) :: tabulate values rest := by
  rw [tabulate, List.filterMap_cons_some (by rw [known, Option.map_some])]
  rfl

theorem tabulate_congr (others : String → Option Value) (names : List String)
    (same : ∀ name ∈ names, values name = others name) :
    tabulate values names = tabulate others names := by
  apply List.filterMap_congr
  intro name member
  rw [same name member]

theorem names_of_tabulate (names : List String) :
    (tabulate values names).map Prod.fst = names.filter fun name => (values name).isSome := by
  induction names with
  | nil => rfl
  | cons name rest induction =>
    cases known : values name with
    | none => simp [tabulate_cons_none values name rest known, known, induction]
    | some value => simp [tabulate_cons_some values name rest value known, known, induction]

theorem lookup_tabulate (names : List String) (name : String) :
    (tabulate values names).lookup name = if name ∈ names then values name else none := by
  induction names with
  | nil => rfl
  | cons other rest induction =>
    cases known : values other with
    | none =>
      rw [tabulate_cons_none values other rest known, induction]
      by_cases same : name = other
      · simp [same, known]
      · simp [same]
    | some value =>
      rw [tabulate_cons_some values other rest value known, Bindings.lookup_pair_cons, induction]
      by_cases same : name = other
      · simp [same, known]
      · simp [same]

end Tabulate

section Recursion

variable {library : Library} {given : Context}

theorem outcome_eq_none_of_not_mem (outcomes : Outcomes)
    (recursive : library.IsRecursive given outcomes) (name : String)
    (absent : name ∉ library.names) : outcomes name = none := by
  rw [recursive name, outcomeFrom]
  cases found : library.find? name with
  | none => rfl
  | some block => exact absurd (mem_names_of_find library name block found) absent

/-- It is the value that a trial takes from the outcome. -/
theorem own_value_eq (outcomes : Outcomes) (name : String) :
    ownValue? outcomes name = (outcomes name).bind (Trial.valueOf? name) := by
  unfold ownValue?
  rcases outcomes name with _ | (error | context)
  · rfl
  · rfl
  · rfl

theorem own_value_eq_none (outcomes : Outcomes) (name : String)
    (unevaluated : outcomes name = none) : ownValue? outcomes name = none := by
  rw [own_value_eq, unevaluated, Option.bind_none]

theorem upstream_congr (first second : Outcomes) (name : String) (symbols : NameSet)
    (same : ∀ used ∈ symbols.erase name, first used = second used) :
    upstream first name symbols = upstream second name symbols := by
  apply tabulate_congr
  intro used member
  rw [own_value_eq, own_value_eq, same used member]

/-- What a block sees of a name: the value from upstream, if there is one, or else the given one. -/
theorem find_with_upstream (outcomes : Outcomes) (name : String) (symbols : NameSet)
    (used : String) :
    (given.insertAll (upstream outcomes name symbols)).find? used =
      (if used ∈ symbols.erase name then ownValue? outcomes used else none).or
        (given.find? used) := by
  have distinct : ((upstream outcomes name symbols).map Prod.fst).Nodup := by
    rw [upstream, names_of_tabulate]
    exact ((symbols.erase name).ascending.imp fun less => String.ne_of_lt less).filter _
  rw [Bindings.insert_all_find _ _ distinct, upstream, lookup_tabulate]
  rfl

/-- What a block uses is a dependency or has no block. -/
theorem depends_of_mem_symbols (name used : String) (block : CodeBlock)
    (found : library.find? name = some block) (member : used ∈ block.symbols.erase name)
    (available : used ∈ library.names) : Depends library.symbolsOf library.names name used := by
  obtain ⟨uses, different⟩ := (NameSet.mem_erase ..).1 member
  refine ⟨mem_names_of_find library name block found, available, ?_, different⟩
  rw [symbols_of_find library name block found]
  exact uses

/-- Only what a block depends on matters for its outcome. -/
theorem outcome_from_congr (first second : Outcomes) (name : String)
    (same : ∀ used, Depends library.symbolsOf library.names name used → first used = second used)
    (absent : ∀ used, used ∉ library.names → first used = second used) :
    library.outcomeFrom given first name = library.outcomeFrom given second name := by
  unfold outcomeFrom
  cases found : library.find? name with
  | none => rfl
  | some block =>
    have values : upstream first name block.symbols = upstream second name block.symbols := by
      apply upstream_congr
      intro used member
      by_cases available : used ∈ library.names
      · exact same used (depends_of_mem_symbols name used block found member available)
      · exact absent used available
    simp only [values]

theorem depends_well_founded (acyclic : ¬ Cyclic library.symbolsOf library.names) :
    WellFounded fun used name => Depends library.symbolsOf library.names name used := by
  have same : ∀ name, name ∈ library.nameSet.toList ↔ name ∈ library.names :=
    mem_name_set library
  rw [← depends_congr _ _ same]
  rw [← cyclic_congr _ _ same] at acyclic
  exact well_founded_of_acyclic acyclic

variable (wellFounded :
  WellFounded fun used name => Depends library.symbolsOf library.names name used)

include wellFounded in
theorem recursive_unique (first second : Outcomes)
    (firstRecursive : library.IsRecursive given first)
    (secondRecursive : library.IsRecursive given second) : first = second := by
  funext name
  induction name using wellFounded.induction with
  | _ name induction =>
    rw [firstRecursive name, secondRecursive name]
    apply outcome_from_congr first second name induction
    intro used absent
    rw [outcome_eq_none_of_not_mem first firstRecursive used absent,
      outcome_eq_none_of_not_mem second secondRecursive used absent]

open Classical in
/-- The outcomes by recursion over the dependencies. -/
noncomputable def recursiveOutcomes (given : Context) : Outcomes :=
  wellFounded.fix fun name outcomeOf =>
    library.outcomeFrom given
      (fun used =>
        if depends : Depends library.symbolsOf library.names name used then outcomeOf used depends
        else none)
      name

theorem recursive_outcomes_eq (name : String) :
    recursiveOutcomes wellFounded given name =
      library.outcomeFrom given
        (fun used =>
          open Classical in
          if Depends library.symbolsOf library.names name used then
            recursiveOutcomes wellFounded given used
          else none)
        name := by
  rw [recursiveOutcomes, WellFounded.fix_eq]
  simp only [dite_eq_ite]

theorem is_recursive_recursive_outcomes :
    library.IsRecursive given (recursiveOutcomes wellFounded given) := by
  intro name
  rw [recursive_outcomes_eq]
  apply outcome_from_congr
  · intro used depends
    rw [if_pos depends]
  · intro used absent
    have unbound : library.find? used = none :=
      Bindings.lookup_eq_none_of_not_mem used library.pairs absent
    have unevaluated : recursiveOutcomes wellFounded given used = none := by
      rw [recursive_outcomes_eq, outcomeFrom, unbound]
    rw [unevaluated, ite_self]

theorem exists_recursive (acyclic : ¬ Cyclic library.symbolsOf library.names) (given : Context) :
    ∃ outcomes, library.IsRecursive given outcomes :=
  ⟨_, is_recursive_recursive_outcomes (depends_well_founded acyclic)⟩

end Recursion

section Run

variable {library : Library} {given : Context} {outcomes : Outcomes}

/-- A trial knows the outcomes of the names that are done, and no others. -/
structure Reflects (outcomes : Outcomes) (done : List String) (trial : Trial) : Prop where
  outcome : ∀ name, trial.outcomes.find? name = if name ∈ done then outcomes name else none
  value : ∀ name, trial.produced.find? name = if name ∈ done then ownValue? outcomes name else none

theorem reflects_initially : Reflects outcomes [] .initial :=
  ⟨fun _ => rfl, fun _ => rfl⟩

/-- The values that a trial has produced make the inputs that the outcomes upstream make. -/
theorem inputs_of_eq (produced : Bindings Value) (name : String) (symbols : NameSet)
    (same : ∀ used ∈ symbols.erase name, produced.find? used = ownValue? outcomes used) :
    inputsOf given produced name symbols = given.insertAll (upstream outcomes name symbols) := by
  have pairs : upstream outcomes name symbols =
      tabulate produced.find? (symbols.erase name).toList := by
    apply tabulate_congr
    intro used member
    exact (same used member).symm
  rw [pairs, inputsOf, Bindings.insertAll, tabulate, List.foldl_filterMap]
  apply congrArg fun step => (symbols.erase name).toList.foldl step given
  funext context used
  cases produced.find? used with
  | none => rfl
  | some value => rfl

theorem attempt_eq (recursive : library.IsRecursive given outcomes) (done : List String)
    (trial : Trial) (reflects : Reflects outcomes done trial) (name : String)
    (ready : ∀ used, Depends library.symbolsOf library.names name used → used ∈ done) :
    library.attempt? given trial.produced name =
      (outcomes name).map fun outcome => (name, outcome) := by
  rw [recursive name]
  unfold attempt? outcomeFrom
  cases found : library.find? name with
  | none => rfl
  | some block =>
    have inputs : inputsOf given trial.produced name block.symbols =
        given.insertAll (upstream outcomes name block.symbols) := by
      apply inputs_of_eq
      intro used member
      rw [reflects.value used]
      -- A name that is used has a block, which is done, or is an input, which has no outcome.
      by_cases available : used ∈ library.names
      · rw [if_pos (ready used (depends_of_mem_symbols name used block found member available))]
      · have unevaluated := outcome_eq_none_of_not_mem outcomes recursive used available
        rw [own_value_eq_none outcomes used unevaluated, ite_self]
    simp only [inputs]
    cases block.isEvaluable with
    | false => rfl
    | true => rfl

theorem reflects_record (done : List String) (trial : Trial)
    (reflects : Reflects outcomes done trial) (name : String)
    (outcome : Except EvalError Context) (known : outcomes name = some outcome) :
    Reflects outcomes (done ++ [name]) (trial.record (name, outcome)) := by
  have value : ownValue? outcomes name = Trial.valueOf? name outcome := by
    rw [own_value_eq, known, Option.bind_some]
  constructor
  · intro other
    rw [Trial.record, Bindings.insert_find, reflects.outcome other]
    by_cases same : other = name
    · simp [same, known]
    · simp [same]
  · intro other
    unfold Trial.record
    cases found : Trial.valueOf? name outcome with
    | none =>
      by_cases same : other = name
      · simp [same, reflects.value, value, found]
      · simp [same, reflects.value]
    | some own =>
      by_cases same : other = name
      · simp [same, Bindings.insert_find, value, found]
      · simp [same, Bindings.insert_find, reflects.value]

theorem reflects_skip (done : List String) (trial : Trial)
    (reflects : Reflects outcomes done trial) (name : String) (unevaluated : outcomes name = none) :
    Reflects outcomes (done ++ [name]) trial := by
  constructor
  · intro other
    rw [reflects.outcome other]
    by_cases same : other = name
    · simp [same, unevaluated]
    · simp [same]
  · intro other
    rw [reflects.value other]
    by_cases same : other = name
    · simp [same, own_value_eq_none outcomes name unevaluated]
    · simp [same]

theorem reflects_record_all (done : List String) (trial : Trial)
    (reflects : Reflects outcomes done trial) (names : List String) :
    Reflects outcomes (done ++ names) ((tabulate outcomes names).foldl Trial.record trial) := by
  induction names generalizing done trial with
  | nil =>
    rw [List.append_nil]
    exact reflects
  | cons name rest induction =>
    rw [← List.singleton_append, ← List.append_assoc]
    cases known : outcomes name with
    | none =>
      rw [List.singleton_append, tabulate_cons_none outcomes name rest known]
      exact induction _ trial (reflects_skip done trial reflects name known)
    | some outcome =>
      rw [List.singleton_append, tabulate_cons_some outcomes name rest outcome known,
        List.foldl_cons]
      exact induction _ _ (reflects_record done trial reflects name outcome known)

/-- A level whose dependencies are done gets its outcomes, whatever its order. -/
theorem reflects_test_level (recursive : library.IsRecursive given outcomes) (done : List String)
    (trial : Trial) (reflects : Reflects outcomes done trial) (level : List String)
    (ready : ∀ name ∈ level, ∀ used,
      Depends library.symbolsOf library.names name used → used ∈ done) :
    Reflects outcomes (done ++ level) (library.testLevel given trial level) := by
  have attempts : level.filterMap (library.attempt? given trial.produced) =
      tabulate outcomes level := by
    apply List.filterMap_congr
    intro name member
    exact attempt_eq recursive done trial reflects name (ready name member)
  rw [testLevel, attempts]
  exact reflects_record_all done trial reflects level

theorem reflects_test_levels (recursive : library.IsRecursive given outcomes) (done : List String)
    (trial : Trial) (reflects : Reflects outcomes done trial) (levels : List (List String))
    (layered : library.Layered done levels) :
    Reflects outcomes (done ++ levels.flatten) (levels.foldl (library.testLevel given) trial) := by
  induction levels generalizing done trial with
  | nil =>
    rw [List.flatten_nil, List.append_nil]
    exact reflects
  | cons level rest induction =>
    rw [List.flatten_cons, ← List.append_assoc, List.foldl_cons]
    exact induction _ _ (reflects_test_level recursive done trial reflects level layered.1)
      layered.2

/-- A way through all blocks that takes dependencies first comes to all outcomes. -/
theorem find_outcome_of_layered (recursive : library.IsRecursive given outcomes)
    (levels : List (List String)) (layered : library.Layered [] levels)
    (complete : ∀ name ∈ library.names, name ∈ levels.flatten) (name : String) :
    (levels.foldl (library.testLevel given) .initial).outcomes.find? name = outcomes name := by
  have reflects := reflects_test_levels recursive [] .initial reflects_initially levels layered
  rw [reflects.outcome name, List.nil_append]
  by_cases available : name ∈ library.names
  · rw [if_pos (complete name available)]
  · rw [outcome_eq_none_of_not_mem outcomes recursive name available, ite_self]

end Run

section Scheduled

variable {library : Library} {given : Context}

theorem layered_of_split (done : List String) (levels : List (List String))
    (ready : ∀ before after level, levels = before ++ level :: after → ∀ name ∈ level, ∀ used,
      Depends library.symbolsOf library.names name used → used ∈ done ++ before.flatten) :
    library.Layered done levels := by
  induction levels generalizing done with
  | nil => exact trivial
  | cons level rest induction =>
    constructor
    · have first := ready [] rest level rfl
      rw [List.flatten_nil, List.append_nil] at first
      exact first
    · apply induction
      intro before after other split
      have later := ready (level :: before) after other (by rw [split, List.cons_append])
      rw [List.flatten_cons, ← List.append_assoc] at later
      exact later

/-- All names of a library are requested, and all have a block. -/
theorem mem_all_requested_iff (name : String) :
    name ∈ ((NameSet.ofList library.names).filter fun name => library.contains name).toList ↔
      name ∈ library.names := by
  rw [NameSet.mem_to_list, mem_requested_iff, List.mem_filter, Bindings.contains_iff, and_self]

theorem layered_of_scheduled (schedule : Schedule)
    (scheduled : library.schedule library.names = .ok schedule) :
    library.Layered [] schedule.levels := by
  apply layered_of_split
  intro before after level split name member used depends
  rw [← depends_congr _ _ mem_all_requested_iff] at depends
  exact mem_levels_before scheduled before after level split name used member depends

theorem mem_levels_of_scheduled (schedule : Schedule)
    (scheduled : library.schedule library.names = .ok schedule) (name : String)
    (available : name ∈ library.names) : name ∈ schedule.levels.flatten := by
  rw [flatten_levels scheduled, mem_order_iff scheduled]
  exact mem_all_requested_iff name |>.2 available

theorem self_test_of_scheduled (outcomes : Outcomes)
    (recursive : library.IsRecursive given outcomes) (schedule : Schedule)
    (scheduled : library.schedule library.names = .ok schedule) :
    library.selfTest given = .ok (library.answers outcomes) := by
  have found := find_outcome_of_layered recursive schedule.levels
    (layered_of_scheduled schedule scheduled) (mem_levels_of_scheduled schedule scheduled)
  simp only [selfTest, scheduled, found, answers, tabulate]

theorem schedulable_iff_acyclic :
    (∃ schedule, library.schedule library.names = .ok schedule) ↔
      ¬ Cyclic library.symbolsOf library.names := by
  rw [← cyclic_congr _ _ mem_all_requested_iff]
  exact schedulable_iff _ _

theorem self_test_of_acyclic (acyclic : ¬ Cyclic library.symbolsOf library.names)
    (outcomes : Outcomes) (recursive : library.IsRecursive given outcomes) :
    library.selfTest given = .ok (library.answers outcomes) := by
  obtain ⟨schedule, scheduled⟩ := schedulable_iff_acyclic.2 acyclic
  exact self_test_of_scheduled outcomes recursive schedule scheduled

theorem self_test_of_cyclic (cyclic : Cyclic library.symbolsOf library.names) :
    ∃ error, library.schedule library.names = .error error ∧
      library.selfTest given = .error error := by
  cases scheduled : library.schedule library.names with
  | ok schedule => exact absurd cyclic (schedulable_iff_acyclic.1 ⟨schedule, scheduled⟩)
  | error error => exact ⟨error, rfl, by rw [selfTest, scheduled]⟩

end Scheduled

section Answers

variable {library : Library} {given : Context} {outcomes : Outcomes}

theorem outcome_is_some_iff (recursive : library.IsRecursive given outcomes) (name : String)
    (block : CodeBlock) (found : library.find? name = some block) :
    (outcomes name).isSome = block.isEvaluable := by
  rw [recursive name]
  simp only [outcomeFrom, found]
  cases block.isEvaluable with
  | false => rfl
  | true => rfl

/-- The blocks that can be evaluated are answered for, in the order of registration. -/
theorem names_of_answers (recursive : library.IsRecursive given outcomes) :
    (library.answers outcomes).map Prod.fst =
      (library.pairs.filter fun pair => pair.2.isEvaluable).map Prod.fst := by
  have evaluable : library.pairs.filter (fun pair => pair.2.isEvaluable) =
      library.pairs.filter fun pair => (outcomes pair.1).isSome := by
    apply List.filter_congr
    intro pair member
    have found := Bindings.find_of_mem library pair.1 pair.2 member
    rw [outcome_is_some_iff recursive pair.1 pair.2 found]
  rw [evaluable, answers, names_of_tabulate, Bindings.names, List.filter_map]
  rfl

theorem is_recursive_of_reordered (other : Library) (reordered : other.pairs.Perm library.pairs)
    (recursive : library.IsRecursive given outcomes) : other.IsRecursive given outcomes := by
  intro name
  rw [recursive name, outcomeFrom, outcomeFrom, Bindings.find_eq_of_perm other library reordered]

end Answers

/-- If no block depends on itself, the outcome of each block that can be evaluated is that of its
evaluation on the given values, overlaid with those that the blocks it uses have given their own
quantities, in ascending order of the names; this tells all outcomes. The answers hold them in the
order of registration. The same outcomes come about along any layers that take dependencies first,
and in any order of registration. If some block depends on itself, the answer is the error of
ordering all names. -/
theorem self_test_by_recursion (library : Library) (given : Context) :
    (¬ Cyclic library.symbolsOf library.names →
      ∃ outcomes, library.IsRecursive given outcomes ∧
        (∀ others, library.IsRecursive given others → others = outcomes) ∧
        library.selfTest given = .ok (library.answers outcomes) ∧
        (library.answers outcomes).map Prod.fst =
          (library.pairs.filter fun pair => pair.2.isEvaluable).map Prod.fst ∧
        (∀ levels, library.Layered [] levels →
          (∀ name ∈ library.names, name ∈ levels.flatten) →
          ∀ name, (levels.foldl (library.testLevel given) .initial).outcomes.find? name =
            outcomes name) ∧
        ∀ other : Library, other.pairs.Perm library.pairs →
          other.selfTest given = .ok (other.answers outcomes)) ∧
    (Cyclic library.symbolsOf library.names →
      ∃ error, library.schedule library.names = .error error ∧
        library.selfTest given = .error error) := by
  refine ⟨?_, self_test_of_cyclic⟩
  intro acyclic
  obtain ⟨outcomes, recursive⟩ := exists_recursive acyclic given
  refine ⟨outcomes, recursive, ?_, self_test_of_acyclic acyclic outcomes recursive,
    names_of_answers recursive, find_outcome_of_layered recursive, ?_⟩
  · intro others othersRecursive
    exact recursive_unique (depends_well_founded acyclic) others outcomes othersRecursive recursive
  · intro other reordered
    have sameNames : ∀ name, name ∈ other.names ↔ name ∈ library.names := by
      intro name
      exact (reordered.map Prod.fst).mem_iff
    have otherAcyclic : ¬ Cyclic other.symbolsOf other.names := by
      rw [symbols_of_reordered other library reordered, cyclic_congr _ _ sameNames]
      exact acyclic
    exact self_test_of_acyclic otherAcyclic _ (is_recursive_of_reordered other reordered recursive)

/-- A block computes "total" from "part", which is computed from a given value, so the value given for
"part" itself is not seen. The block of "lost" fails, and what is given for "lost" stays in force. A
second library has two blocks that use each other. -/
theorem self_test_by_recursion_of_chains :
    let copying (source target : String) : CodeBlock :=
      ⟨target, target ++ " = " ++ source, .ofList [source, target], ∅, some fun context =>
        (context.lookup source).map (context.insert target)⟩
    let library := Library.ofBlocks [copying "part" "total", copying "lost" "late",
      copying "y" "lost", copying "x" "part"]
    let given : Context := Bindings.ofList [("x", .int 3), ("part", .int 8), ("lost", .int 5)]
    let knotted := Library.ofBlocks [copying "p" "q", copying "q" "p"]
    ¬ Cyclic library.symbolsOf library.names ∧
      (∃ outcomes, library.IsRecursive given outcomes ∧
        library.selfTest given = .ok (library.answers outcomes) ∧
        (library.answers outcomes).map
            (fun answer => (answer.1, answer.2.bind fun context => context.index answer.1)) =
          [("total", .ok 3), ("late", .ok 5), ("lost", .error (.missingBinding "y")),
            ("part", .ok 3)]) ∧
      Cyclic knotted.symbolsOf knotted.names ∧
      ∃ error, knotted.schedule knotted.names = .error error ∧
        knotted.selfTest given = .error error := by
  intro copying library given knotted
  have ordered : (library.schedule library.names).map Schedule.order =
      .ok ["lost", "part", "late", "total"] := by
    decide +kernel
  have acyclic : ¬ Cyclic library.symbolsOf library.names := by
    obtain ⟨schedule, scheduled, _⟩ := (except_map_eq_ok_iff ..).1 ordered
    exact schedulable_iff_acyclic.1 ⟨schedule, scheduled⟩
  have refused : (knotted.schedule knotted.names).map Schedule.order = .error ⟨["p", "q"], []⟩ := by
    decide +kernel
  have cyclic : Cyclic knotted.symbolsOf knotted.names := by
    by_contra acyclic
    obtain ⟨schedule, scheduled⟩ := schedulable_iff_acyclic.2 acyclic
    rw [scheduled] at refused
    cases refused
  obtain ⟨outcomes, recursive, _, tested, _⟩ := (self_test_by_recursion library given).1 acyclic
  refine ⟨acyclic, ⟨outcomes, recursive, tested, ?_⟩, cyclic,
    (self_test_by_recursion knotted given).2 cyclic⟩
  have evaluated : (library.selfTest given).map (List.map fun answer =>
      (answer.1, answer.2.bind fun context => context.index answer.1)) =
        .ok [("total", .ok 3), ("late", .ok 5), ("lost", .error (.missingBinding "y")),
          ("part", .ok 3)] := by
    decide +kernel
  rw [tested] at evaluated
  exact Except.ok.inj evaluated

end PairLoop.Library
