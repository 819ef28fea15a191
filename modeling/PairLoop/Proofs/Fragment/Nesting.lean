import PairLoop.Fragment.Symbols

/-!
Brackets. Brackets are nested if they are opened and closed in pairs of one kind. Other brackets
leave some open, and the innermost of these is the one that has only nested brackets behind it.
-/

namespace PairLoop.Fragment

/-- Brackets in pairs of one kind, where pairs stand inside or behind others. -/
inductive Nested : List Char → Prop
  | nil : Nested []
  | pair {opening closing : Char} {inner rest : List Char}
      (matching : opening? closing = some opening) (inside : Nested inner)
      (behind : Nested rest) : Nested (opening :: (inner ++ closing :: rest))

/-- The brackets that others leave open, the innermost first. -/
inductive Leaves : List Char → List Char → Prop
  | closed {brackets : List Char} (nested : Nested brackets) : Leaves brackets []
  | opened {brackets opened inner : List Char} (bracket : Char)
      (opens : isOpening bracket = true) (outer : Leaves brackets opened)
      (nested : Nested inner) : Leaves (brackets ++ bracket :: inner) (bracket :: opened)

theorem nested_append (first second : List Char) (firstNested : Nested first)
    (secondNested : Nested second) : Nested (first ++ second) := by
  induction firstNested with
  | nil => exact secondNested
  | pair matching inside _ _ induction =>
    rw [List.cons_append, List.append_assoc, List.cons_append]
    exact .pair matching inside induction

theorem leaves_append (brackets opened more : List Char) (leaves : Leaves brackets opened)
    (nested : Nested more) : Leaves (brackets ++ more) opened := by
  cases leaves with
  | closed bracketsNested => exact .closed (nested_append brackets more bracketsNested nested)
  | opened bracket opens outer innerNested =>
    rw [List.append_assoc, List.cons_append]
    exact .opened bracket opens outer (nested_append _ more innerNested nested)

theorem leaves_open (brackets opened : List Char) (bracket : Char)
    (opens : isOpening bracket = true) (leaves : Leaves brackets opened) :
    Leaves (brackets ++ [bracket]) (bracket :: opened) :=
  .opened bracket opens leaves .nil

theorem leaves_close (brackets opened : List Char) (opening closing : Char)
    (matching : opening? closing = some opening)
    (leaves : Leaves brackets (opening :: opened)) :
    Leaves (brackets ++ [closing]) opened := by
  cases leaves with
  | opened bracket opens outer nested =>
    rw [List.append_assoc, List.cons_append]
    exact leaves_append _ _ _ outer (.pair matching nested .nil)

/-- The open brackets behind one more. -/
def reduce (opened : List Char) (bracket : Char) : List Char :=
  if isOpening bracket then bracket :: opened else opened.tail

theorem reduce_pair (opened : List Char) (opening closing : Char)
    (matching : opening? closing = some opening) :
    reduce (reduce opened opening) closing = opened := by
  unfold opening? at matching
  split at matching
  all_goals cases matching
  all_goals rfl

theorem reduce_nested (brackets opened : List Char) (nested : Nested brackets) :
    brackets.foldl reduce opened = opened := by
  induction nested generalizing opened with
  | nil => rfl
  | pair matching _ _ insideInduction behindInduction =>
    rw [List.foldl_cons, List.foldl_append, insideInduction, List.foldl_cons,
      reduce_pair opened _ _ matching, behindInduction]

theorem reduce_leaves (brackets opened : List Char) (leaves : Leaves brackets opened) :
    brackets.foldl reduce [] = opened := by
  induction leaves with
  | closed nested => exact reduce_nested _ [] nested
  | opened bracket opens _ nested induction =>
    rw [List.foldl_append, induction, List.foldl_cons, reduce_nested _ _ nested, reduce, if_pos opens]

/-- The innermost open bracket is the one with nested brackets behind it. -/
theorem head_open_iff (brackets opened : List Char) (leaves : Leaves brackets opened)
    (bracket : Char) (opens : isOpening bracket = true) :
    opened.head? = some bracket ↔
      ∃ outer inner, brackets = outer ++ bracket :: inner ∧ Nested inner := by
  constructor
  · intro innermost
    cases leaves with
    | closed nested => cases innermost
    | opened found _ _ nested =>
      rw [← Option.some.inj innermost]
      exact ⟨_, _, rfl, nested⟩
  · intro split
    rcases split with ⟨outer, inner, rfl, nested⟩
    rw [← reduce_leaves _ opened leaves, List.foldl_append, List.foldl_cons,
      reduce_nested inner _ nested, reduce, if_pos opens]
    rfl

end PairLoop.Fragment
