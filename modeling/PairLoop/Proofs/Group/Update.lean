import PairLoop.Group.Basic

/-!
What an update makes of a group. The writes after the order is known come to one: the resolution
of the equations and the names of their variables. A resolution does not look at variable names, and
naming the variables again changes nothing, so an update right after another finds nothing to do.
-/

namespace PairLoop

theorem except_map_eq_ok_iff {Cause Value Image : Type} (image : Value → Image)
    (result : Except Cause Value) (mapped : Image) :
    result.map image = .ok mapped ↔ ∃ value, result = .ok value ∧ image value = mapped := by
  cases result with
  | error cause => simp [Except.map]
  | ok value => simp [Except.map]

theorem except_map_eq_error_iff {Cause Value Image : Type} (image : Value → Image)
    (result : Except Cause Value) (cause : Cause) :
    result.map image = .error cause ↔ result = .error cause := by
  cases result with
  | error found => simp [Except.map]
  | ok value => simp [Except.map]

/-- The equation with an empty variable name. -/
def Equation.unnamed (equation : Equation) : Equation := { equation with variableName := "" }

theorem unnamed_name_variables (earlier : List String) (equations : List Equation) :
    (nameVariables earlier equations).map Equation.unnamed = equations.map Equation.unnamed := by
  induction equations generalizing earlier with
  | nil => rfl
  | cons equation rest induction =>
    rw [nameVariables, List.map_cons, List.map_cons, induction]
    rfl

/-- The names given to variables do not depend on those that they had. -/
theorem name_variables_unnamed (earlier : List String) (equations : List Equation) :
    nameVariables earlier (equations.map Equation.unnamed) = nameVariables earlier equations := by
  induction equations generalizing earlier with
  | nil => rfl
  | cons equation rest induction =>
    simp only [List.map_cons, nameVariables, Equation.unnamed, induction]

theorem name_variables_idem (earlier : List String) (equations : List Equation) :
    nameVariables earlier (nameVariables earlier equations) = nameVariables earlier equations := by
  rw [← name_variables_unnamed earlier (nameVariables earlier equations),
    unnamed_name_variables, name_variables_unnamed]

theorem Equation.arguments_unnamed (equation : Equation) (phase : Phase) (receiver : String) :
    equation.unnamed.arguments phase receiver = equation.arguments phase receiver := by
  cases phase <;> rfl

theorem exists_of_mem_name_variables (earlier : List String) (equations : List Equation)
    (equation : Equation) (member : equation ∈ nameVariables earlier equations) :
    ∃ original ∈ equations, original.unnamed = equation.unnamed := by
  have unnamed : equation.unnamed ∈ (nameVariables earlier equations).map Equation.unnamed :=
    List.mem_map_of_mem member
  rw [unnamed_name_variables] at unnamed
  exact List.mem_map.1 unnamed

namespace Resolution

theorem resolve_eq_ok_iff (library : Library) (config : Config) (equations : List Equation)
    (resolution : Resolution) :
    resolve library config equations = .ok resolution ↔
      ∃ names, order library config equations = .ok names ∧
        ofOrder library equations names = resolution :=
  except_map_eq_ok_iff ..

theorem pair_arguments_unnamed (receiver : String) (equations : List Equation) :
    pairArguments receiver (equations.map Equation.unnamed) =
      (pairArguments receiver equations).map fun pair => (pair.1.unnamed, pair.2) := by
  unfold pairArguments
  rw [List.flatMap_map, List.map_flatMap]
  apply congrArg (fun arguments => equations.flatMap arguments)
  funext equation
  rw [List.map_map]
  rfl

theorem mentioned_unnamed (equations : List Equation) (blocks : Bindings CodeBlock) :
    mentioned (equations.map Equation.unnamed) blocks = mentioned equations blocks := by
  unfold mentioned
  rw [List.flatMap_map]
  rfl

theorem unknown_argument_unnamed (library : Library) (arguments : List (Equation × String)) :
    unknownArgument? library (arguments.map fun pair => (pair.1.unnamed, pair.2)) =
      (unknownArgument? library arguments).map fun pair => (pair.1.unnamed, pair.2) := by
  unfold unknownArgument?
  rw [List.find?_map]
  rfl

theorem order_unnamed (library : Library) (config : Config) (equations : List Equation) :
    order library config (equations.map Equation.unnamed) = order library config equations := by
  unfold order
  simp only [pair_arguments_unnamed, unknown_argument_unnamed, List.map_map, Function.comp_def]
  cases config.strict with
  | false => rfl
  | true =>
    cases unknownArgument? library (pairArguments config.receiver equations) with
    | none => rfl
    | some pair => rfl

/-- A resolution does not look at the names of variables. -/
theorem resolve_unnamed (library : Library) (config : Config) (equations : List Equation) :
    resolve library config (equations.map Equation.unnamed) = resolve library config equations := by
  unfold resolve
  rw [order_unnamed]
  apply congrArg (fun result => Except.map result _)
  funext order
  unfold ofOrder
  simp only [mentioned_unnamed]

theorem resolve_name_variables (library : Library) (config : Config) (equations : List Equation) :
    resolve library config (nameVariables [] equations) = resolve library config equations := by
  rw [← resolve_unnamed, unnamed_name_variables, resolve_unnamed]

end Resolution

namespace Group

/-- The group with a resolution of its equations and names for their variables. -/
def settled (group : Group) (resolution : Resolution) : Group :=
  { group with
    equations := nameVariables [] group.equations
    resolution := resolution }

/-- What the writes of an update make of a group, however the order is found. -/
theorem writes_eq (find : Group → Except GroupError (List String)) (group : Group) :
    (do
      let group ← get
      let order ← MonadExcept.ofExcept (find group)
      modify (takeBlocks order)
      modify collectDefaults
      modify collectArrays
      modify nameEquations : ExceptT GroupError (StateM Group) Unit) group =
      match find group with
      | .error error => (.error error, group)
      | .ok order =>
        (.ok (), group.settled (Resolution.ofOrder group.library group.equations order)) := by
  change (do
    let order ← MonadExcept.ofExcept (find group)
    modify (takeBlocks order)
    modify collectDefaults
    modify collectArrays
    modify nameEquations : ExceptT GroupError (StateM Group) Unit) group = _
  cases find group with
  | error error => rfl
  | ok order => rfl

/-- An update leaves the group alone or settles it with the resolution of its equations. -/
theorem refresh_eq (group : Group) :
    refresh group =
      match Resolution.resolve group.library group.config group.equations with
      | .error error => (.error error, group)
      | .ok resolution => (.ok (), group.settled resolution) := by
  unfold refresh
  rw [writes_eq fun group => Resolution.order group.library group.config group.equations]
  unfold Resolution.resolve
  cases Resolution.order group.library group.config group.equations with
  | error error => rfl
  | ok order => rfl

theorem update_eq_ok_iff (group next : Group) :
    group.update = .ok next ↔
      ∃ resolution,
        Resolution.resolve group.library group.config group.equations = .ok resolution ∧
          next = group.settled resolution := by
  unfold update
  rw [refresh_eq]
  cases Resolution.resolve group.library group.config group.equations with
  | error error => simp
  | ok resolution => simp [eq_comm]

theorem exists_updated_iff (group : Group) (resolution : Resolution) :
    (∃ next, group.update = .ok next ∧ next.resolution = resolution) ↔
      Resolution.resolve group.library group.config group.equations = .ok resolution := by
  constructor
  · intro updated
    rcases updated with ⟨next, updated, rfl⟩
    obtain ⟨_, resolves, rfl⟩ := (update_eq_ok_iff group next).1 updated
    exact resolves
  · intro resolves
    exact ⟨group.settled resolution, (update_eq_ok_iff ..).2 ⟨resolution, resolves, rfl⟩, rfl⟩

theorem update_eq_error_iff (group : Group) (error : GroupError) :
    group.update = .error error ↔
      Resolution.resolve group.library group.config group.equations = .error error := by
  unfold update
  rw [refresh_eq]
  cases Resolution.resolve group.library group.config group.equations with
  | error cause => simp
  | ok resolution => simp

/-- An update that fails changes nothing. -/
theorem eq_of_refresh_error (group next : Group) (error : GroupError)
    (refused : refresh group = (.error error, next)) : next = group := by
  rw [refresh_eq] at refused
  split at refused
  · exact (congrArg Prod.snd refused).symm
  · cases congrArg Prod.fst refused

theorem settled_of_refresh_ok (group next : Group) (updated : refresh group = (.ok (), next)) :
    ∃ resolution, Resolution.resolve group.library group.config group.equations = .ok resolution ∧
      next = group.settled resolution := by
  apply (update_eq_ok_iff group next).1
  unfold update
  rw [updated]

/-- An update right after another finds nothing to do. -/
theorem refresh_settled (group : Group) (resolution : Resolution)
    (found : Resolution.resolve group.library group.config group.equations = .ok resolution) :
    refresh (group.settled resolution) = (.ok (), group.settled resolution) := by
  have again : Resolution.resolve group.library group.config
      (nameVariables [] group.equations) = .ok resolution := by
    rw [Resolution.resolve_name_variables]
    exact found
  rw [refresh_eq]
  unfold settled
  simp only [again, name_variables_idem]

/-- A construction and an update give the same group for the same equations. -/
theorem eq_of_assembled_or_updated (library : Library) (config : Config)
    (equations : List Equation) (group : Group)
    (resolved : assemble library config equations = .ok group ∨
      ∃ stale : Group, stale.library = library ∧ stale.config = config ∧
        stale.equations = equations ∧ stale.update = .ok group) :
    ∃ resolution, Resolution.resolve library config equations = .ok resolution ∧
      group = ⟨library, config, nameVariables [] equations, resolution⟩ := by
  rcases resolved with constructed | ⟨stale, rfl, rfl, rfl, updated⟩
  · exact (update_eq_ok_iff _ group).1 constructed
  · exact (update_eq_ok_iff stale group).1 updated

end Group

end PairLoop
