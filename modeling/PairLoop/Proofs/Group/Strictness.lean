import PairLoop.Proofs.Group.ArrayNames

/-!
What strict settings change. They have an argument of pair code reported that nothing supplies, the
first in the order of equations and parameters, before any cycle is looked for. Where everything
is supplied they change nothing.
-/

namespace PairLoop

/-- The first item of a list with a property. -/
structure IsFirst {Item : Type} (property : Item → Prop) (items : List Item) (item : Item) :
    Prop where
  holds : property item
  split : ∃ before after, items = before ++ item :: after ∧ ∀ earlier ∈ before, ¬ property earlier

theorem is_first_of_find {Item : Type} (test : Item → Bool) (property : Item → Prop)
    (items : List Item) (item : Item) (same : ∀ other, test other = true ↔ property other)
    (found : items.find? test = some item) : IsFirst property items item := by
  obtain ⟨passes, before, after, split, failing⟩ := List.find?_eq_some_iff_append.1 found
  have missed : ∀ earlier ∈ before, ¬ property earlier := by
    intro earlier member holds
    have fails := failing earlier member
    rw [(same earlier).2 holds] at fails
    exact Bool.noConfusion fails
  exact ⟨(same item).1 passes, before, after, split, missed⟩

namespace Library

/-- A name of the particles, a token of the kernel or the name of a block. -/
def Supplies (library : Library) (name : String) : Prop :=
  Name.sourceMark.toList <+: name.toList ∨ Name.destinationMark.toList <+: name.toList ∨
    name = Name.kernelToken ∨ name = Name.gradientToken ∨ name ∈ library.names

theorem is_known_iff (library : Library) (name : String) :
    Resolution.isKnown library name = true ↔ library.Supplies name := by
  simp only [Resolution.isKnown, Name.isSource, Name.isDestination, Name.begins, Name.isKernelToken,
    Supplies, Bool.or_eq_true, List.isPrefixOf_iff_prefix, beq_iff_eq, Bindings.contains_iff,
    or_assoc]

/-- A parameter that is written into calls and that nothing supplies. -/
def Misses (library : Library) (receiver name : String) : Prop :=
  name ≠ receiver ∧ ¬ library.Supplies name

/-- The pair code of an equation has a parameter that the library misses. -/
def FallsShort (library : Library) (receiver : String) (equation : Equation) : Prop :=
  ∃ behavior, equation.behavior? .perPair = some behavior ∧
    ∃ name ∈ behavior.parameters, library.Misses receiver name

theorem misses_iff (library : Library) (receiver name : String) :
    (name != receiver) = true ∧ (!Resolution.isKnown library name) = true ↔
      library.Misses receiver name := by
  rw [bne_iff_ne, Bool.not_eq_true', ← Bool.not_eq_true, is_known_iff, Misses]

theorem falls_short_iff (library : Library) (receiver : String) (equation : Equation) :
    library.FallsShort receiver equation ↔
      ∃ argument ∈ equation.arguments .perPair receiver,
        Resolution.isKnown library argument = false := by
  simp only [Equation.mem_arguments_iff, ← Bool.not_eq_true, is_known_iff, FallsShort, Misses]
  constructor
  · rintro ⟨behavior, behaves, name, member, different, unsupplied⟩
    exact ⟨name, ⟨different, behavior, behaves, member⟩, unsupplied⟩
  · rintro ⟨name, ⟨different, behavior, behaves, member⟩, unsupplied⟩
    exact ⟨behavior, behaves, name, member, different, unsupplied⟩

end Library

namespace Resolution

variable (library : Library) (receiver : String)

theorem first_missed_of_argument (equation : Equation) (name : String)
    (found : (equation.arguments .perPair receiver).find? (fun argument =>
      !isKnown library argument) = some name) :
    ∃ behavior, equation.behavior? .perPair = some behavior ∧
      IsFirst (library.Misses receiver) behavior.parameters name := by
  unfold Equation.arguments at found
  cases behaves : equation.behavior? .perPair with
  | none =>
    rw [behaves] at found
    cases found
  | some behavior =>
    rw [behaves] at found
    simp only [Behavior.arguments, List.find?_filter] at found
    refine ⟨behavior, rfl, is_first_of_find _ _ _ _ ?_ found⟩
    intro other
    rw [decide_eq_true_iff, Library.misses_iff]

/-- The search over the arguments of all equations stops at the first equation that has one which is
missed, at the first such parameter of it. -/
theorem first_missed_of_arguments (equations : List Equation) (equation : Equation)
    (name : String)
    (found : unknownArgument? library (pairArguments receiver equations) = some (equation, name)) :
    IsFirst (library.FallsShort receiver) equations equation ∧
      ∃ behavior, equation.behavior? .perPair = some behavior ∧
        IsFirst (library.Misses receiver) behavior.parameters name := by
  unfold unknownArgument? pairArguments at found
  rw [List.find?_flatMap] at found
  obtain ⟨before, other, after, split, here, earlier⟩ := List.findSome?_eq_some_iff.1 found
  rw [List.find?_map] at here
  obtain ⟨argument, first, same⟩ := Option.map_eq_some_iff.1 here
  cases same
  have short : library.FallsShort receiver equation := by
    rw [Library.falls_short_iff]
    have unknown := List.find?_some first
    exact ⟨name, List.mem_of_find?_eq_some first, by simpa using unknown⟩
  have served : ∀ skipped ∈ before, ¬ library.FallsShort receiver skipped := by
    intro skipped member
    rw [Library.falls_short_iff]
    rintro ⟨other, taken, unknown⟩
    have nothing := earlier skipped member
    rw [List.find?_map, Option.map_eq_none_iff, List.find?_eq_none] at nothing
    exact nothing other taken (by simp [unknown])
  exact ⟨⟨short, before, after, split, served⟩,
    first_missed_of_argument library receiver equation name first⟩

theorem resolve_of_unknown (config : Config) (equations : List Equation)
    (strict : config.strict = true) (equation : Equation) (name : String)
    (found : unknownArgument? library (pairArguments config.receiver equations) =
      some (equation, name)) :
    resolve library config equations =
      .error (.unknownSymbol equation.displayName name .perPair) := by
  rw [resolve, order_of_unknown library config equations strict equation name found]
  rfl

/-- The schedule of the needed blocks decides where no argument is missed, strict or not. -/
theorem resolve_of_served (config : Config) (equations : List Equation)
    (served : ¬ ∃ equation ∈ equations, library.FallsShort config.receiver equation)
    (strict : Bool) :
    resolve library { config with strict := strict } equations =
      match neededSchedule library config equations with
      | .error error => .error (.cycle error)
      | .ok schedule => .ok (ofOrder library equations schedule.order) := by
  have accepted : ¬ Refused library { config with strict := strict } equations := by
    rintro ⟨_, equation, member, unknown⟩
    exact served ⟨equation, member, (Library.falls_short_iff ..).2 unknown⟩
  exact resolve_of_not_refused library _ equations accepted

end Resolution

namespace Group

/-- The group under settings that are strict or not and else its own. -/
def withStrict (group : Group) (strict : Bool) : Group :=
  { group with config := { group.config with strict := strict } }

/-- Under strict settings an update fails for the first argument that nothing supplies, whether the
blocks form a cycle or not. If there is none, it comes to what it comes to under settings that are
not strict: the same cycle is reported, or the equations get the same names and the same
resolution. This goes for a construction as well, which is the update of a blank group. -/
theorem update_of_strict (group : Group) :
    ((∃ equation ∈ group.equations, group.library.FallsShort group.config.receiver equation) →
      ∃ equation behavior name,
        IsFirst (group.library.FallsShort group.config.receiver) group.equations equation ∧
        equation.behavior? .perPair = some behavior ∧
        IsFirst (group.library.Misses group.config.receiver) behavior.parameters name ∧
        (group.withStrict true).update =
          .error (.unknownSymbol equation.displayName name .perPair)) ∧
    ((¬ ∃ equation ∈ group.equations, group.library.FallsShort group.config.receiver equation) →
      (∃ error, (group.withStrict true).update = .error (.cycle error) ∧
        (group.withStrict false).update = .error (.cycle error)) ∨
      ∃ strict lenient, (group.withStrict true).update = .ok strict ∧
        (group.withStrict false).update = .ok lenient ∧
        strict.equations = lenient.equations ∧ strict.resolution = lenient.resolution) := by
  constructor
  · intro short
    have unknown : (Resolution.unknownArgument? group.library
        (Resolution.pairArguments group.config.receiver group.equations)).isSome = true := by
      rw [Resolution.unknown_argument_is_some_iff]
      simpa only [Library.falls_short_iff] using short
    obtain ⟨⟨equation, name⟩, found⟩ := Option.isSome_iff_exists.1 unknown
    obtain ⟨first, behavior, behaves, firstName⟩ :=
      Resolution.first_missed_of_arguments _ _ _ equation name found
    refine ⟨equation, behavior, name, first, behaves, firstName, ?_⟩
    apply (update_eq_error_iff ..).2
    exact Resolution.resolve_of_unknown _ _ _ rfl equation name found
  · intro served
    have resolves := Resolution.resolve_of_served group.library group.config group.equations served
    cases needed : Resolution.neededSchedule group.library group.config group.equations with
    | error error =>
      simp only [needed] at resolves
      have failed : ∀ strict, (group.withStrict strict).update = .error (.cycle error) :=
        fun strict => (update_eq_error_iff ..).2 (resolves strict)
      exact .inl ⟨error, failed true, failed false⟩
    | ok schedule =>
      simp only [needed] at resolves
      have updated : ∀ strict, (group.withStrict strict).update =
          .ok ((group.withStrict strict).settled
            (Resolution.ofOrder group.library group.equations schedule.order)) :=
        fun strict => (update_eq_ok_iff ..).2 ⟨_, resolves strict, rfl⟩
      exact .inr ⟨_, _, updated true, updated false, rfl, rfl⟩

/-- The blocks "p" and "q" form a cycle and nothing supplies "r", which the second of three
equations takes in its pair code. The third has such a parameter in its setup only, and nothing
supplies the receiver either. -/
theorem update_of_strict_past_a_cycle :
    let library := Library.ofUses [("a", ["b"]), ("b", []), ("p", ["q"]), ("q", ["p"])]
    let drag := (Equation.ofClass "Drag" "fluid" ["fluid"]).withBehavior .perPair
      ["self", "a", "d_x"]
    let push := ((Equation.ofClass "Push" "fluid" ["fluid"]).withBehavior .perPair
      ["self", "s_x", "KERNEL", "p", "r", "t"]).named "Shove"
    let hold := (Equation.ofClass "Hold" "fluid" []).withBehavior .setup ["self", "u"]
    (∃ equation behavior name,
      IsFirst (library.FallsShort "self") [drag, push, hold] equation ∧
      equation.behavior? .perPair = some behavior ∧
      IsFirst (library.Misses "self") behavior.parameters name ∧
      assemble library .strictStandard [drag, push, hold] =
        .error (.unknownSymbol equation.displayName name .perPair)) ∧
    assemble library .strictStandard [drag, push, hold] =
      .error (.unknownSymbol "Shove" "r" .perPair) ∧
    assemble library .standard [drag, push, hold] = .error (.cycle ⟨["p", "q"], []⟩) ∧
    ∃ strict lenient, assemble library .strictStandard [drag, hold] = .ok strict ∧
      assemble library .standard [drag, hold] = .ok lenient ∧
      strict.equations = lenient.equations ∧ strict.resolution = lenient.resolution := by
  intro library drag push hold
  let group (equations : List Equation) : Group := ⟨library, .standard, equations, .blank⟩
  have failed : (assemble library .strictStandard [drag, push, hold]).map Group.equations =
      .error (.unknownSymbol "Shove" "r" .perPair) := by
    decide +kernel
  have cyclic : (assemble library .standard [drag, push, hold]).map Group.equations =
      .error (.cycle ⟨["p", "q"], []⟩) := by
    decide +kernel
  have served : ∀ equation ∈ [drag, hold], ¬ library.FallsShort "self" equation := by
    simp only [Library.falls_short_iff, not_exists, not_and]
    decide +kernel
  have short : library.FallsShort "self" push := by
    rw [Library.falls_short_iff]
    decide +kernel
  refine ⟨?_, ?_, ?_, ?_⟩
  · exact (update_of_strict (group [drag, push, hold])).1 ⟨push, by simp [group], short⟩
  · exact (except_map_eq_error_iff ..).1 failed
  · exact (except_map_eq_error_iff ..).1 cyclic
  · have outcome := (update_of_strict (group [drag, hold])).2
      fun ⟨equation, member, short⟩ => served equation member short
    have succeeds : ((group [drag, hold]).withStrict false).update.isOk = true := by
      decide +kernel
    rcases outcome with ⟨error, _, cyclic⟩ | agree
    · rw [cyclic] at succeeds
      exact Bool.noConfusion succeeds
    · exact agree

end Group

end PairLoop
