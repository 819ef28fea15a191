import PairLoop.Proofs.Fragment.Uses

/-!
The division of a fragment up to some place in it. The lexemes in front of the place are cut off
with the rest at hand, so that divisions of neighbouring parts make up one. Over lexemes whose
brackets are nested the scan comes with the same open brackets, and it counts the line feeds
between lexemes, but none inside of them.
-/

namespace PairLoop.Fragment

/-- A text is divided into lexemes up to a rest. -/
inductive LexedUpTo (rest : List Char) : List Char → List Lexeme → Prop
  | nil : LexedUpTo rest rest []
  | cons {behind : List Char} {lexemes : List Lexeme} (lexeme : Lexeme)
      (wellFormed : lexeme.WellFormed) (longest : lexeme.Longest behind)
      (divided : LexedUpTo rest behind lexemes) :
      LexedUpTo rest (lexeme.text ++ behind) (lexeme :: lexemes)

/-- The text of lexemes that follow each other. -/
def written (lexemes : List Lexeme) : List Char := lexemes.flatMap Lexeme.text

section Parts

variable {text middle rest : List Char} {before behind lexemes : List Lexeme}

theorem lexed_iff_up_to_end : Lexed text lexemes ↔ LexedUpTo [] text lexemes := by
  constructor
  · intro lexed
    induction lexed with
    | nil => exact .nil
    | cons lexeme wellFormed longest _ induction => exact .cons lexeme wellFormed longest induction
  · intro divided
    induction divided with
    | nil => exact .nil
    | cons lexeme wellFormed longest _ induction => exact .cons lexeme wellFormed longest induction

theorem lexed_up_to_append (first : LexedUpTo middle text before)
    (second : LexedUpTo rest middle behind) : LexedUpTo rest text (before ++ behind) := by
  induction first with
  | nil => exact second
  | cons lexeme wellFormed longest _ induction => exact .cons lexeme wellFormed longest induction

/-- A division can be cut in front of any of its lexemes. -/
theorem exists_cut (lexeme : Lexeme) (divided : LexedUpTo rest text (before ++ lexeme :: behind)) :
    ∃ after, LexedUpTo (lexeme.text ++ after) text before ∧ lexeme.WellFormed ∧
      lexeme.Longest after ∧ LexedUpTo rest after behind := by
  induction before generalizing text with
  | nil =>
    cases divided with
    | cons _ wellFormed longest divided => exact ⟨_, .nil, wellFormed, longest, divided⟩
  | cons first before induction =>
    cases divided with
    | cons _ firstFormed firstLongest divided =>
      obtain ⟨after, front, parts⟩ := induction divided
      exact ⟨after, .cons first firstFormed firstLongest front, parts⟩

theorem text_eq_written (divided : LexedUpTo rest text lexemes) :
    text = written lexemes ++ rest := by
  induction divided with
  | nil => rfl
  | cons lexeme _ _ _ induction =>
    rw [written, List.flatMap_cons, List.append_assoc, ← written, ← induction]

/-- The division of a whole text goes on from every place that a division of a part comes to. -/
theorem exists_lexed_rest (divided : LexedUpTo rest text before) (lexed : Lexed text lexemes) :
    ∃ behind, lexemes = before ++ behind ∧ Lexed rest behind := by
  induction divided generalizing lexemes with
  | nil => exact ⟨lexemes, rfl, lexed⟩
  | cons lexeme wellFormed longest divided induction =>
    generalize whole : lexeme.text ++ _ = text at lexed
    cases lexed with
    | nil => exact absurd (List.append_eq_nil_iff.1 whole).1 (lexeme.text_ne_nil wellFormed)
    | cons other otherFormed otherLongest lexed =>
      obtain ⟨rfl, rfl⟩ := lexeme.eq_of_longest other _ _ wellFormed otherFormed longest
        otherLongest whole
      obtain ⟨behind, rfl, lexedRest⟩ := induction lexed
      exact ⟨behind, rfl, lexedRest⟩

end Parts

section Brackets

theorem not_opening_of_closing (closing opening : Char) (closes : opening? closing = some opening) :
    isOpening closing = false := by
  unfold opening? at closes
  split at closes
  all_goals cases closes
  all_goals rfl

theorem opening_of_closing (closing opening : Char) (closes : opening? closing = some opening) :
    isOpening opening = true := by
  unfold opening? at closes
  split at closes
  all_goals cases closes
  all_goals rfl

theorem Lexeme.eq_opening_of_bracket (lexeme : Lexeme) (bracket : Char)
    (wellFormed : lexeme.WellFormed) (found : lexeme.bracket? = some bracket)
    (opens : isOpening bracket = true) : lexeme = .opening bracket := by
  cases lexeme with
  | opening other => rw [Option.some.inj found]
  | closing other =>
    obtain ⟨expected, closes⟩ := Option.isSome_iff_exists.1 wellFormed
    rw [Option.some.inj found] at closes
    rw [not_opening_of_closing bracket expected closes] at opens
    exact Bool.noConfusion opens
  | _ => cases found

theorem Lexeme.eq_closing_of_bracket (lexeme : Lexeme) (bracket expected : Char)
    (wellFormed : lexeme.WellFormed) (found : lexeme.bracket? = some bracket)
    (closes : opening? bracket = some expected) : lexeme = .closing bracket := by
  cases lexeme with
  | closing other => rw [Option.some.inj found]
  | opening other =>
    have opens : isOpening bracket = true := Option.some.inj found ▸ wellFormed
    rw [not_opening_of_closing bracket expected closes] at opens
    exact Bool.noConfusion opens
  | _ => cases found

/-- The lexemes can be cut where their brackets can. -/
theorem exists_bracket_lexeme (lexemes : List Lexeme) (first second : List Char) (bracket : Char)
    (split : brackets lexemes = first ++ bracket :: second) :
    ∃ before lexeme behind, lexemes = before ++ lexeme :: behind ∧ brackets before = first ∧
      lexeme.bracket? = some bracket ∧ brackets behind = second := by
  obtain ⟨front, back, rfl, frontBrackets, backBrackets⟩ := List.filterMap_eq_append_iff.1 split
  obtain ⟨gap, lexeme, behind, rfl, noBracket, found, behindBrackets⟩ :=
    List.filterMap_eq_cons_iff.1 backBrackets
  refine ⟨front ++ gap, lexeme, behind, by simp, ?_, found, behindBrackets⟩
  rw [brackets, List.filterMap_append, frontBrackets, List.filterMap_eq_nil_iff.2 noBracket,
    List.append_nil]

end Brackets

namespace Scan

/-- Over lexemes the scan comes from one state to another, counting the line feeds among them. -/
structure Passes (scan : Scan) (text : List Char) (lexemes : List Lexeme) (next : Scan)
    (rest : List Char) : Prop where
  run : scan.run .code text = next.run .code rest
  line : next.line = scan.line + lexemes.count .lineFeed

variable {scan next last : Scan} {text middle rest : List Char} {before behind : List Lexeme}

theorem passes_nothing (scan : Scan) (text : List Char) : scan.Passes text [] scan text :=
  ⟨rfl, rfl⟩

theorem passes_append (first : scan.Passes text before next middle)
    (second : next.Passes middle behind last rest) :
    scan.Passes text (before ++ behind) last rest := by
  refine ⟨first.run.trans second.run, ?_⟩
  rw [second.line, first.line, List.count_append, Nat.add_assoc]

theorem line_of_read (lexeme : Lexeme) (read : scan.read lexeme rest = .ok next) :
    next.line = scan.line + [lexeme].count .lineFeed := by
  cases lexeme with
  | closing bracket =>
    obtain ⟨line, outer, opened, rfl⟩ := (close_bracket_eq_ok_iff _ bracket).1 read
    rfl
  | other char =>
    cases read
    split
    all_goals rfl
  | _ =>
    cases read
    rfl

theorem passes_lexeme (lexeme : Lexeme) (wellFormed : lexeme.WellFormed)
    (longest : lexeme.Longest rest) (read : scan.read lexeme rest = .ok next) :
    scan.Passes (lexeme.text ++ rest) [lexeme] next rest := by
  refine ⟨?_, line_of_read lexeme read⟩
  rw [scan.run_lexeme lexeme rest wellFormed longest, read]
  rfl

/-- A lexeme that is no bracket leaves the open brackets as they are. -/
theorem exists_read_of_no_bracket (scan : Scan) (lexeme : Lexeme) (behind : List Char)
    (noBracket : lexeme.bracket? = none) :
    ∃ next, scan.read lexeme behind = .ok next ∧ next.opened = scan.opened := by
  cases lexeme with
  | opening bracket => cases noBracket
  | closing bracket => cases noBracket
  | other char =>
    refine ⟨_, rfl, ?_⟩
    split
    all_goals rfl
  | _ => exact ⟨_, rfl, rfl⟩

variable {lexemes : List Lexeme}

theorem exists_passes_of_no_brackets (scan : Scan) (divided : LexedUpTo rest text lexemes)
    (noBrackets : brackets lexemes = []) :
    ∃ next, scan.Passes text lexemes next rest ∧ next.opened = scan.opened := by
  induction divided generalizing scan with
  | nil => exact ⟨scan, passes_nothing scan rest, rfl⟩
  | @cons behind lexemes lexeme wellFormed longest _ induction =>
    have none := List.filterMap_eq_nil_iff.1 noBrackets
    obtain ⟨next, read, opened⟩ :=
      scan.exists_read_of_no_bracket lexeme behind (none lexeme List.mem_cons_self)
    obtain ⟨last, passes, lastOpened⟩ := induction next
      (List.filterMap_eq_nil_iff.2 fun other member => none other (List.mem_cons_of_mem _ member))
    exact ⟨last, passes_append (passes_lexeme lexeme wellFormed longest read) passes,
      lastOpened.trans opened⟩

theorem passes_opening (scan : Scan) (bracket : Char)
    (wellFormed : (Lexeme.opening bracket).WellFormed)
    (longest : (Lexeme.opening bracket).Longest rest) :
    scan.Passes ((Lexeme.opening bracket).text ++ rest) [.opening bracket]
      (scan.openBracket bracket) rest :=
  passes_lexeme _ wellFormed longest rfl

theorem exists_passes_of_closing (scan : Scan) (bracket expected : Char) (line : Nat)
    (outer : List (Char × Nat)) (innermost : scan.opened = (expected, line) :: outer)
    (closes : opening? bracket = some expected)
    (wellFormed : (Lexeme.closing bracket).WellFormed)
    (longest : (Lexeme.closing bracket).Longest rest) :
    ∃ next, scan.Passes ((Lexeme.closing bracket).text ++ rest) [.closing bracket] next rest ∧
      next.opened = outer := by
  have closed := (close_bracket_eq_ok_iff expected bracket).2 ⟨line, outer, innermost, rfl⟩
  refine ⟨{ scan with opened := outer, afterDot := false }, ?_, rfl⟩
  apply passes_lexeme _ wellFormed longest
  rw [read, closes]
  exact closed

/-- Over nested brackets the scan comes with the brackets open that were open before. -/
theorem exists_passes_of_nested (word : List Char) (nested : Nested word) (scan : Scan)
    (divided : LexedUpTo rest text lexemes) (same : brackets lexemes = word) :
    ∃ next, scan.Passes text lexemes next rest ∧ next.opened = scan.opened := by
  -- By induction on the nesting and not on the lexemes: a pair is passed as a whole, so what is
  -- open in front of it is open behind it.
  induction nested generalizing scan text rest lexemes with
  | nil => exact exists_passes_of_no_brackets scan divided same
  | @pair opening closing inner others matching _ _ insideInduction behindInduction =>
    obtain ⟨gap, first, behind, rfl, gapBrackets, firstFound, behindBrackets⟩ :=
      exists_bracket_lexeme lexemes [] (inner ++ closing :: others) opening same
    obtain ⟨inside, second, after, rfl, insideBrackets, secondFound, afterBrackets⟩ :=
      exists_bracket_lexeme behind inner others closing behindBrackets
    obtain ⟨_, gapDivided, firstFormed, firstLongest, divided⟩ := exists_cut first divided
    obtain ⟨_, insideDivided, secondFormed, secondLongest, afterDivided⟩ :=
      exists_cut second divided
    have opens := first.eq_opening_of_bracket opening firstFormed firstFound
      (opening_of_closing closing opening matching)
    have closes := second.eq_closing_of_bracket closing opening secondFormed secondFound matching
    subst opens closes
    obtain ⟨atOpening, overGap, gapOpened⟩ :=
      exists_passes_of_no_brackets scan gapDivided gapBrackets
    have overOpening := passes_opening atOpening opening firstFormed firstLongest
    obtain ⟨atClosing, overInside, insideOpened⟩ :=
      insideInduction (atOpening.openBracket opening) insideDivided insideBrackets
    obtain ⟨closed, overClosing, closedOpened⟩ := exists_passes_of_closing atClosing closing opening
      _ _ insideOpened matching secondFormed secondLongest
    obtain ⟨last, overAfter, afterOpened⟩ := behindInduction closed afterDivided afterBrackets
    refine ⟨last, ?_, afterOpened.trans (closedOpened.trans gapOpened)⟩
    exact passes_append overGap (passes_append overOpening
      (passes_append overInside (passes_append overClosing overAfter)))

/-- Over a text in which every closing bracket meets an open one of its kind, the scan comes with
the brackets open that the text leaves open. -/
theorem exists_passes_of_leaves (word opened : List Char) (leaves : Leaves word opened)
    (scan : Scan) (fresh : scan.opened = []) (divided : LexedUpTo rest text lexemes)
    (same : brackets lexemes = word) :
    ∃ next, scan.Passes text lexemes next rest ∧ next.opened.map Prod.fst = opened := by
  induction leaves generalizing text rest lexemes with
  | closed nested =>
    obtain ⟨next, passes, nextOpened⟩ := exists_passes_of_nested _ nested scan divided same
    exact ⟨next, passes, by rw [nextOpened, fresh]; rfl⟩
  | opened bracket opens outer nested induction =>
    obtain ⟨before, lexeme, behind, rfl, beforeBrackets, found, behindBrackets⟩ :=
      exists_bracket_lexeme lexemes _ _ bracket same
    obtain ⟨_, beforeDivided, wellFormed, longest, behindDivided⟩ := exists_cut lexeme divided
    have isOpening := lexeme.eq_opening_of_bracket bracket wellFormed found opens
    subst isOpening
    obtain ⟨atOpening, overBefore, beforeOpened⟩ := induction beforeDivided beforeBrackets
    have overOpening := passes_opening atOpening bracket wellFormed longest
    obtain ⟨last, overBehind, behindOpened⟩ :=
      exists_passes_of_nested _ nested (atOpening.openBracket bracket) behindDivided behindBrackets
    refine ⟨last, passes_append overBefore (passes_append overOpening overBehind), ?_⟩
    rw [behindOpened, openBracket, List.map_cons, beforeOpened]

end Scan

end PairLoop.Fragment
