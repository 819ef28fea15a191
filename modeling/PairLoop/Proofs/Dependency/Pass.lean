import PairLoop.Proofs.Dependency.Chain

/-!
Weights that are found in passes. A name gets its weight when all its dependencies have theirs, so
the weight is the length of the longest chain that begins at it. A pass that finds no weight leaves
each pending name with a pending dependency.
-/

namespace PairLoop.Dependency

variable {uses : String → NameSet} {names : NameSet}

theorem mem_dependencies_iff (name used : String) (member : name ∈ names) :
    used ∈ dependencies uses names name ↔ Depends uses names.toList name used := by
  unfold dependencies
  rw [NameSet.mem_to_list, NameSet.mem_filter, Bool.and_eq_true, bne_iff_ne, decide_eq_true_iff]
  constructor
  · intro used
    exact ⟨member, used.2.2, used.1, used.2.1⟩
  · intro depends
    exact ⟨depends.2.2.1, depends.2.2.2, depends.2.1⟩

theorem level_eq_some (weights : Bindings Nat) (level result : Nat) (depends : List String)
    (found : level? weights level depends = some result) :
    level ≤ result ∧
    (∀ used ∈ depends, ∃ weight, weights.find? used = some weight ∧ weight < result) ∧
    (result = level ∨
      ∃ used ∈ depends, ∃ weight, weights.find? used = some weight ∧ weight + 1 = result) := by
  induction depends generalizing level with
  | nil =>
    have same : level = result := Option.some.inj found
    exact ⟨Nat.le_of_eq same, fun _ impossible => absurd impossible List.not_mem_nil,
      .inl same.symm⟩
  | cons head rest induction =>
    cases weighed : weights.find? head with
    | none => simp [level?, weighed] at found
    | some weight =>
      simp only [level?, weighed] at found
      obtain ⟨above, bounded, reached⟩ := induction (max level (weight + 1)) found
      refine ⟨by omega, ?_, ?_⟩
      · intro used member
        rcases List.mem_cons.1 member with same | later
        · exact ⟨weight, same ▸ weighed, by omega⟩
        · exact bounded used later
      · rcases reached with same | later
        · by_cases heavier : level ≤ weight
          · exact .inr ⟨head, List.mem_cons_self, weight, weighed, by omega⟩
          · exact .inl (by omega)
        · rcases later with ⟨used, member, rest⟩
          exact .inr ⟨used, List.mem_cons_of_mem head member, rest⟩

theorem level_eq_none (weights : Bindings Nat) (level : Nat) (depends : List String)
    (nothing : level? weights level depends = none) :
    ∃ used ∈ depends, weights.find? used = none := by
  induction depends generalizing level with
  | nil => simp [level?] at nothing
  | cons head rest induction =>
    cases weighed : weights.find? head with
    | none => exact ⟨head, List.mem_cons_self, weighed⟩
    | some weight =>
      simp only [level?, weighed] at nothing
      obtain ⟨used, member, unweighed⟩ := induction _ nothing
      exact ⟨used, List.mem_cons_of_mem head member, unweighed⟩

/-- Every weight is the length of a longest chain. -/
def Sound (uses : String → NameSet) (names : NameSet) (weights : Bindings Nat) : Prop :=
  ∀ name weight, weights.find? name = some weight → IsLongest uses names.toList name weight

theorem sound_insert (weights : Bindings Nat) (sound : Sound uses names weights) (name : String)
    (member : name ∈ names) (level : Nat)
    (found : level? weights 0 (dependencies uses names name) = some level) :
    Sound uses names (weights.insert name level) := by
  obtain ⟨_, bounded, reached⟩ := level_eq_some weights 0 level _ found
  have longest : IsLongest uses names.toList name level := by
    constructor
    · rcases reached with rfl | ⟨used, depends, weight, weighed, rfl⟩
      · exact .stop member
      · have step := (mem_dependencies_iff name used member).1 depends
        exact .step step (sound used weight weighed).1
    · intro other chain
      cases chain with
      | stop _ => exact Nat.zero_le level
      | step depends rest =>
        have listed := (mem_dependencies_iff name _ member).2 depends
        obtain ⟨weight, weighed, lighter⟩ := bounded _ listed
        have shorter := (sound _ weight weighed).2 _ rest
        omega
  intro other weight weighed
  rw [Bindings.insert_find] at weighed
  split at weighed
  · next same =>
    rw [same, ← Option.some.inj weighed]
    exact longest
  · exact sound other weight weighed

/-- A pass takes names away from the pending ones to give them weights, and changes nothing else. -/
theorem mem_pass_iff (depends : String → List String) (weights : Bindings Nat)
    (pending : List String) (name : String) :
    name ∈ (pass depends weights pending).1.names ∨ name ∈ (pass depends weights pending).2 ↔
      name ∈ weights.names ∨ name ∈ pending := by
  induction pending generalizing weights with
  | nil => rfl
  | cons head rest induction =>
    unfold pass
    split
    · next level _ =>
      rw [induction, Bindings.insert_names]
      split
      · next listed =>
        simp only [List.mem_cons]
        constructor
        · intro either
          exact either.imp_right .inr
        · intro either
          rcases either with weighed | rfl | later
          · exact .inl weighed
          · exact .inl listed
          · exact .inr later
      · simp only [List.mem_append, List.mem_cons, List.not_mem_nil, or_false, or_assoc]
    · simp only [List.mem_cons]
      rw [or_left_comm, induction, or_left_comm]

theorem pass_sublist (depends : String → List String) (weights : Bindings Nat)
    (pending : List String) : (pass depends weights pending).2.Sublist pending := by
  induction pending generalizing weights with
  | nil => exact List.Sublist.refl []
  | cons head rest induction =>
    unfold pass
    split
    · exact (induction _).cons head
    · exact (induction weights).cons_cons head

theorem sound_pass (weights : Bindings Nat) (pending : List String)
    (sound : Sound uses names weights) (inside : ∀ name ∈ pending, name ∈ names) :
    Sound uses names (pass (dependencies uses names) weights pending).1 := by
  induction pending generalizing weights with
  | nil => exact sound
  | cons head rest induction =>
    have restInside : ∀ name ∈ rest, name ∈ names := by
      intro name member
      exact inside name (List.mem_cons_of_mem head member)
    unfold pass
    split
    · next level found =>
      apply induction _ _ restInside
      exact sound_insert weights sound head (inside head List.mem_cons_self) level found
    · exact induction weights sound restInside

/-- A pass that leaves all names pending has found no weight for any of them. -/
theorem pass_stalled (depends : String → List String) (weights : Bindings Nat)
    (pending : List String)
    (stalled : (pass depends weights pending).2.length = pending.length) :
    ∀ name ∈ pending, level? weights 0 (depends name) = none := by
  induction pending with
  | nil =>
    intro name impossible
    exact absurd impossible List.not_mem_nil
  | cons head rest induction =>
    unfold pass at stalled
    split at stalled
    · next level _ =>
      have shorter := (pass_sublist depends (weights.insert head level) rest).length_le
      rw [stalled, List.length_cons] at shorter
      omega
    · next nothing =>
      simp only [List.length_cons, Nat.add_right_cancel_iff] at stalled
      intro name member
      rcases List.mem_cons.1 member with same | later
      · rw [same]
        exact nothing
      · exact induction stalled name later

/-- What is known of weights and pending names on the way: the weights are sound, and the names
are those with a weight and the pending ones. -/
structure Underway (uses : String → NameSet) (names : NameSet) (weights : Bindings Nat)
    (pending : List String) : Prop where
  sound : Sound uses names weights
  complete : ∀ name, name ∈ weights.names ∨ name ∈ pending ↔ name ∈ names

theorem underway_initially (uses : String → NameSet) (names : NameSet) :
    Underway uses names ∅ names.toList := by
  have nothing : (∅ : Bindings Nat).names = [] := rfl
  constructor
  · intro name weight weighed
    exact absurd weighed (by simp [Bindings.find_empty])
  · intro name
    simp [nothing, NameSet.mem_to_list]

theorem underway_pass (weights : Bindings Nat) (pending : List String)
    (underway : Underway uses names weights pending) :
    Underway uses names (pass (dependencies uses names) weights pending).1
      (pass (dependencies uses names) weights pending).2 := by
  constructor
  · apply sound_pass weights pending underway.sound
    intro name member
    exact (underway.complete name).1 (.inr member)
  · intro name
    rw [mem_pass_iff]
    exact underway.complete name

/-- With as many rounds as pending names, the names that are left in the end have no weight. -/
theorem settle_spec (rounds : Nat) (weights : Bindings Nat) (pending : List String)
    (underway : Underway uses names weights pending) (enough : pending.length ≤ rounds) :
    Underway uses names (settle (dependencies uses names) rounds weights pending).1
        (settle (dependencies uses names) rounds weights pending).2 ∧
      ∀ name ∈ (settle (dependencies uses names) rounds weights pending).2,
        level? (settle (dependencies uses names) rounds weights pending).1 0
          (dependencies uses names name) = none := by
  induction rounds generalizing weights pending with
  | zero =>
    have nothing : pending = [] := List.length_eq_zero_iff.1 (by omega)
    refine ⟨underway, ?_⟩
    intro name member
    rw [settle, nothing] at member
    exact absurd member List.not_mem_nil
  | succ rounds induction =>
    unfold settle
    simp only
    split
    · next stalled =>
      exact ⟨underway, pass_stalled (dependencies uses names) weights pending stalled⟩
    · next progress =>
      have shorter := (pass_sublist (dependencies uses names) weights pending).length_le
      exact induction _ _ (underway_pass weights pending underway) (by omega)

theorem settle_sublist (depends : String → List String) (rounds : Nat) (weights : Bindings Nat)
    (pending : List String) : (settle depends rounds weights pending).2.Sublist pending := by
  induction rounds generalizing weights pending with
  | zero => exact List.Sublist.refl pending
  | succ rounds induction =>
    unfold settle
    simp only
    split
    · exact List.Sublist.refl pending
    · exact (induction _ _).trans (pass_sublist depends weights pending)

/-- Each name that is left in the end depends on another. -/
theorem stuck_continued (uses : String → NameSet) (names : NameSet) :
    ∀ name ∈ (settle (dependencies uses names) names.size ∅ names.toList).2,
      ∃ used, Depends uses (settle (dependencies uses names) names.size ∅ names.toList).2
        name used := by
  obtain ⟨underway, unweighed⟩ := settle_spec names.size ∅ names.toList
    (underway_initially uses names) (Nat.le_refl _)
  intro name stuck
  have member := (underway.complete name).1 (.inr stuck)
  obtain ⟨used, depends, nothing⟩ := level_eq_none _ _ _ (unweighed name stuck)
  have step := (mem_dependencies_iff name used member).1 depends
  refine ⟨used, stuck, ?_, step.2.2⟩
  rcases (underway.complete used).2 step.2.1 with weighed | left
  · obtain ⟨weight, found⟩ := Bindings.exists_find _ used weighed
    rw [nothing] at found
    cases found
  · exact left

end PairLoop.Dependency
