/-!
The common indentation of a fragment and its removal. Fragments are written inside other code, so
every line that holds something begins with the same run of spaces and tabs. Only these two code
points indent, and a line feed alone ends a line.
-/

namespace PairLoop.Fragment

def isIndent (char : Char) : Bool := char == ' ' || char == '\t'

def isBlankLine (line : List Char) : Bool := line.all isIndent

def indentation (line : List Char) : List Char := line.takeWhile isIndent

def commonBeginning : List Char → List Char → List Char
  | first :: rest, other :: others =>
    if first = other then first :: commonBeginning rest others else []
  | _, _ => []

theorem common_beginning_prefix_left (first second : List Char) :
    commonBeginning first second <+: first := by
  induction first generalizing second with
  | nil => simp [commonBeginning]
  | cons char rest induction =>
    cases second with
    | nil => simp [commonBeginning]
    | cons other others =>
      unfold commonBeginning
      split
      · exact (List.prefix_cons_inj char).2 (induction others)
      · exact List.nil_prefix

theorem common_beginning_comm (first second : List Char) :
    commonBeginning first second = commonBeginning second first := by
  induction first generalizing second with
  | nil => cases second <;> rfl
  | cons char rest induction =>
    cases second with
    | nil => rfl
    | cons other others =>
      unfold commonBeginning
      by_cases same : char = other
      · rw [if_pos same, if_pos same.symm, induction, same]
      · rw [if_neg same, if_neg fun equal => same equal.symm]

/-- What begins both texts begins their common beginning. -/
theorem prefix_common_beginning (part first second : List Char) (left : part <+: first)
    (right : part <+: second) : part <+: commonBeginning first second := by
  induction part generalizing first second with
  | nil => exact List.nil_prefix
  | cons char rest induction =>
    rcases left with ⟨firstRest, rfl⟩
    rcases right with ⟨secondRest, rfl⟩
    rw [List.cons_append, List.cons_append, commonBeginning, if_pos rfl]
    exact (List.prefix_cons_inj char).2
      (induction _ _ (List.prefix_append rest firstRest) (List.prefix_append rest secondRest))

/-- The longest common beginning of the indentations of all lines that hold something. -/
def margin (lines : List (List Char)) : List Char :=
  match (lines.filter fun line => !isBlankLine line).map indentation with
  | [] => []
  | first :: others => others.foldl commonBeginning first

/-- A line without the margin. A blank line becomes empty, and a line that does not begin with the
margin stays as it is. -/
def withoutMargin (margin line : List Char) : List Char :=
  if isBlankLine line then []
  else if margin.isPrefixOf line then line.drop margin.length
  else line

def dedentText (text : List Char) : List Char :=
  let lines := text.splitOn '\n'
  ['\n'].intercalate (lines.map (withoutMargin (margin lines)))

def dedent (code : String) : String := String.ofList (dedentText code.toList)

end PairLoop.Fragment
