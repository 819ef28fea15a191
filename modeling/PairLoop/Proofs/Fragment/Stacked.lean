import PairLoop.Proofs.Fragment.OffenceLine

/-!
Fragments one below the other. No lexeme reaches over the end of a fragment whose strings are
closed, and where its brackets are nested and it does not end in a full stop, the scan goes on below
it as at the beginning, but with its names and its lines. So a fragment has the same names below
another one, and a fault in it is found in the same words, a fixed number of lines further down.
-/

namespace PairLoop.Fragment

open PairLoop.Unicode

section Ends

def Lexeme.isComment : Lexeme → Bool
  | comment _ => true
  | _ => false

/-- The code points that are neither white space nor in a comment. -/
def bareCode (lexemes : List Lexeme) : List Char :=
  (written (lexemes.filter fun lexeme => !lexeme.isComment)).filter fun char => !isWhiteSpace char

/-- The last code point of the code of a text, comments and white space left out, is a full stop. -/
def EndsInDot (text : List Char) : Prop :=
  ∃ lexemes, Lexed text lexemes ∧ (bareCode lexemes).getLast? = some '.'

theorem bare_code_append (before behind : List Lexeme) :
    bareCode (before ++ behind) = bareCode before ++ bareCode behind := by
  rw [bareCode, List.filter_append, written, List.flatMap_append, List.filter_append]
  rfl

theorem bare_code_of_insignificant (lexemes : List Lexeme)
    (insignificant : ∀ lexeme ∈ lexemes, lexeme.isSignificant = false) :
    bareCode lexemes = [] := by
  induction lexemes with
  | nil => rfl
  | cons lexeme lexemes induction =>
    have single : bareCode [lexeme] = [] := by
      have here := insignificant lexeme List.mem_cons_self
      cases lexeme with
      | lineFeed => rfl
      | comment body => rfl
      | other char =>
        have blank : isWhiteSpace char = true := by
          simpa [Lexeme.isSignificant] using here
        simp [bareCode, written, Lexeme.isComment, Lexeme.text, blank]
      | _ => cases here
    rw [← List.singleton_append, bare_code_append, single,
      induction fun other member => insignificant other (List.mem_cons_of_mem lexeme member)]
    rfl

theorem ends_in_dot_of_stop (text : List Char) (lexemes : List Lexeme) (lexed : Lexed text lexemes)
    (stops : EndsInStop lexemes) : EndsInDot text := by
  obtain ⟨significant, split⟩ := List.getLast?_eq_some_iff.1 stops
  obtain ⟨before, rest, rfl, _, last⟩ := List.filter_eq_append_iff.1 split
  obtain ⟨gap, behind, rfl, gapInsignificant, _, behindInsignificant⟩ :=
    List.filter_eq_cons_iff.1 last
  refine ⟨_, lexed, ?_⟩
  have nothing : bareCode behind = [] := by
    apply bare_code_of_insignificant
    intro lexeme member
    exact Bool.eq_false_iff.2 (List.filter_eq_nil_iff.1 behindInsignificant lexeme member)
  rw [bare_code_append, bare_code_append, ← List.singleton_append, bare_code_append, nothing]
  have dot : bareCode [.other '.'] = ['.'] := by decide +kernel
  simp [dot]

/-- In a text without a number sign there is no comment. -/
theorem bare_code_of_no_comment (text : List Char) (lexemes : List Lexeme)
    (lexed : Lexed text lexemes) (noSign : '#' ∉ text) :
    bareCode lexemes = text.filter fun char => !isWhiteSpace char := by
  induction lexed with
  | nil => rfl
  | @cons behind lexemes lexeme _ _ _ induction =>
    rw [List.mem_append, not_or] at noSign
    have code : lexeme.isComment = false := by
      cases lexeme with
      | comment body => exact absurd List.mem_cons_self noSign.1
      | _ => rfl
    have single : bareCode [lexeme] = lexeme.text.filter fun char => !isWhiteSpace char := by
      simp [bareCode, written, code]
    rw [← List.singleton_append, bare_code_append, single, induction noSign.2, List.filter_append]

theorem not_ends_in_dot (text : List Char) (noSign : '#' ∉ text)
    (noDot : (text.filter fun char => !isWhiteSpace char).getLast? ≠ some '.') :
    ¬ EndsInDot text := by
  rintro ⟨lexemes, lexed, stops⟩
  rw [bare_code_of_no_comment text lexemes lexed noSign] at stops
  exact noDot stops

end Ends

section Above

/-- A string ends with the first quote that no backslash takes. -/
theorem string_body_unique (quote : Char) (first second firstRest secondRest : List Char)
    (quotes : isQuote quote = true) (firstBody : StringBody quote first)
    (secondBody : StringBody quote second)
    (same : first ++ quote :: firstRest = second ++ quote :: secondRest) : first = second := by
  have noEscape : quote ≠ '\\' := by
    rintro rfl
    exact absurd quotes (by decide)
  induction firstBody generalizing second with
  | nil =>
    cases secondBody with
    | nil => rfl
    | plain noQuote => exact absurd (List.cons.inj same).1.symm noQuote
    | escaped => exact absurd (List.cons.inj same).1 noEscape
  | plain firstNoQuote firstNoEscape _ _ induction =>
    cases secondBody with
    | nil => exact absurd (List.cons.inj same).1 firstNoQuote
    | plain _ _ _ behind =>
      obtain ⟨rfl, rest⟩ := List.cons.inj same
      rw [induction _ behind rest]
    | escaped => exact absurd (List.cons.inj same).1 firstNoEscape
  | escaped hidden _ induction =>
    cases secondBody with
    | nil => exact absurd (List.cons.inj same).1.symm noEscape
    | plain _ secondNoEscape => exact absurd (List.cons.inj same).1.symm secondNoEscape
    | escaped other behind =>
      obtain ⟨rfl, rest⟩ := List.cons.inj (List.cons.inj same).2
      rw [induction _ behind rest]

theorem prefix_of_not_mem (part text rest : List Char) (char : Char)
    (begins : part <+: text ++ char :: rest) (absent : char ∉ part) : part <+: text := by
  induction part generalizing text with
  | nil => exact List.nil_prefix
  | cons first part induction =>
    rw [List.mem_cons, not_or] at absent
    cases text with
    | nil => exact absurd (List.cons_prefix_cons.1 begins).1.symm absent.1
    | cons other text =>
      obtain ⟨rfl, behind⟩ := List.cons_prefix_cons.1 begins
      exact (List.prefix_cons_inj first).2 (induction text behind absent.2)

namespace Lexeme

variable (lexeme : Lexeme) (behind rest : List Char)

theorem exists_body_of_head (quote : Char) (more : List Char) (wellFormed : lexeme.WellFormed)
    (quotes : isQuote quote = true) (split : lexeme.text = quote :: more) :
    ∃ body, lexeme = .string quote body := by
  refine ⟨more.dropLast, ?_⟩
  rw [← lexeme.of_text_text wellFormed, split, ofText, beginning_of_quote quote quotes]

theorem line_feed_not_mem (wellFormed : lexeme.WellFormed) (different : lexeme ≠ .lineFeed)
    (noString : ∀ quote body, lexeme ≠ .string quote body) : '\n' ∉ lexeme.text := by
  have hidden := lexeme.hides_nothing_iff.2 fun quote body same =>
    absurd same (noString quote body)
  apply List.count_eq_zero.1
  rw [lexeme.count_line_feed wellFormed, hidden,
    List.count_eq_zero_of_not_mem (mt List.mem_singleton.1 different.symm)]

/-- A lexeme that is the longest stays so if a further line comes behind the text. -/
theorem longest_above_line (wellFormed : lexeme.WellFormed) (longest : lexeme.Longest behind) :
    lexeme.Longest (behind ++ '\n' :: rest) := by
  intro other otherFormed begins
  obtain ⟨char, more, split⟩ := List.exists_cons_of_ne_nil (lexeme.text_ne_nil wellFormed)
  by_cases lineEnds : other = .lineFeed
  · rw [lineEnds, split]
    exact Nat.le_add_left 1 more.length
  by_cases strings : ∃ quote body, other = .string quote body
  · -- Only a string could reach over the line feed, but it is closed in front of it.
    obtain ⟨quote, body, rfl⟩ := strings
    obtain ⟨after, same⟩ := begins
    have heads : quote = char := by
      rw [split] at same
      exact (List.cons.inj same).1
    obtain ⟨inner, rfl⟩ :=
      lexeme.exists_body_of_head quote more wellFormed otherFormed.1 (heads ▸ split)
    simp only [text, List.cons_append, List.append_assoc, List.nil_append] at same
    rw [string_body_unique quote body inner _ _ otherFormed.1 otherFormed.2 wellFormed.2
      (List.cons.inj same).2]
  · have sameLine := other.line_feed_not_mem otherFormed lineEnds fun quote body same =>
      strings ⟨quote, body, same⟩
    rw [← List.append_assoc] at begins
    exact longest other otherFormed (prefix_of_not_mem _ _ rest '\n' begins sameLine)

end Lexeme

theorem begins_assignment_above_line (text rest : List Char) :
    beginsAssignment (text ++ '\n' :: rest) = beginsAssignment text := by
  induction text with
  | nil => rfl
  | cons char text induction =>
    have next : ((text ++ '\n' :: rest).head? != some '=') = (text.head? != some '=') := by
      cases text with
      | nil => rfl
      | cons other text => rfl
    rw [List.cons_append, begins_assignment_cons, begins_assignment_cons, induction, next]

namespace Scan

variable {scan : Scan} {before lexemes : List Lexeme} {text : List Char} {names : NameSet}

theorem read_above_line (scan : Scan) (lexeme : Lexeme) (behind rest : List Char) :
    scan.read lexeme (behind ++ '\n' :: rest) = scan.read lexeme behind := by
  cases lexeme with
  | word letters => rw [read, read, endWord, endWord, begins_assignment_above_line]
  | _ => rfl

theorem close_eq_ok_iff (scan : Scan) (names : NameSet) :
    scan.close = .ok names ↔ scan.opened = [] ∧ scan.symbols = names := by
  unfold close
  split
  · simp [*]
  · simp [*]

/-- Where no fault is found in a text, the scan comes to a line below it with all brackets closed
and with the names of the text. -/
theorem exists_passes_above_line (lexed : Lexed text lexemes)
    (tracks : Tracks before lexemes scan) (scanned : scan.run .code text = .ok names) :
    ∃ last, last.opened = [] ∧ last.symbols = names ∧
      (last.afterDot = true ↔ EndsInStop (before ++ lexemes)) ∧
      ∀ rest, scan.Passes (text ++ '\n' :: rest) lexemes last ('\n' :: rest) := by
  -- What was read before matters only for the last full stop, so it is tracked along the division.
  induction lexed generalizing before scan with
  | nil =>
    rw [scan.run_nothing, close_eq_ok_iff] at scanned
    refine ⟨scan, scanned.1, scanned.2, ?_, fun rest => passes_nothing scan _⟩
    rw [List.append_nil]
    exact tracks.afterDot
  | @cons behind lexemes lexeme wellFormed longest lexed induction =>
    obtain ⟨next, read, scannedBehind⟩ :=
      scan.exists_read_of_run lexeme behind names wellFormed longest scanned
    obtain ⟨last, opened, symbols, afterDot, passes⟩ :=
      induction (tracks_read lexeme behind wellFormed lexed tracks read) scannedBehind
    refine ⟨last, opened, symbols, ?_, ?_⟩
    · rw [afterDot, List.append_assoc]
      rfl
    · intro rest
      have first := passes_lexeme lexeme wellFormed
        (lexeme.longest_above_line behind rest wellFormed longest)
        ((scan.read_above_line lexeme behind rest).trans read)
      rw [List.append_assoc]
      exact passes_append first (passes rest)

end Scan

end Above

/-- The error some lines further down. -/
def errorBelow (lines : Nat) (error : ParseError) : ParseError :=
  ⟨error.line + lines, error.fault⟩

/-- An outcome of what is read some lines further down. -/
def outcomeBelow {Result : Type} (lines : Nat) (image : Result → Result) :
    Except ParseError Result → Except ParseError Result
  | .ok result => .ok (image result)
  | .error error => .error (errorBelow lines error)

namespace Scan

section Below

variable (lines : Nat) (names : NameSet) (scan : Scan) (mode : Mode)

/-- The same scan below a fragment, which takes some lines and has names. -/
def below : Scan where
  line := scan.line + lines
  opened := scan.opened.map fun bracket => (bracket.1, bracket.2 + lines)
  afterDot := scan.afterDot
  symbols := names ∪ scan.symbols

/-- What comes of a code point some lines further down. -/
abbrev stepBelow : Except ParseError (Scan × Mode) → Except ParseError (Scan × Mode) :=
  outcomeBelow lines fun state => (state.1.below lines names, state.2)

theorem inside_parentheses_below :
    (scan.below lines names).insideParentheses = scan.insideParentheses := by
  unfold insideParentheses below
  cases scan.opened with
  | nil => rfl
  | cons bracket outer => rfl

theorem end_word_below (letters after : List Char) :
    (scan.below lines names).endWord letters after =
      (scan.endWord letters after).below lines names := by
  have inserted : ∀ name,
      (names ∪ scan.symbols).insert name = names ∪ scan.symbols.insert name := by
    intro name
    apply NameSet.ext
    intro other
    simp only [NameSet.mem_insert, NameSet.mem_union]
    exact or_left_comm
  unfold endWord
  rw [inside_parentheses_below]
  dsimp only [below]
  rw [inserted]
  split
  · rfl
  · rfl

theorem close_bracket_below (expected bracket : Char) :
    (scan.below lines names).closeBracket expected bracket =
      outcomeBelow lines (below lines names) (scan.closeBracket expected bracket) := by
  rcases scan with ⟨line, opened, afterDot, symbols⟩
  cases opened with
  | nil => rfl
  | cons innermost outer =>
    by_cases same : innermost.1 = expected
    · simp [closeBracket, below, outcomeBelow, same]
    · simp [closeBracket, below, outcomeBelow, same, fail, errorBelow]

theorem start_below (char : Char) :
    (scan.below lines names).start char = stepBelow lines names (scan.start char) := by
  rw [start_eq, start_eq]
  cases beginning char with
  | lineFeed =>
    simp only [below, stepBelow, outcomeBelow]
    rw [Nat.add_right_comm]
  | closing expected =>
    simp only
    rw [close_bracket_below]
    cases scan.closeBracket expected char with
    | error error => rfl
    | ok closed => rfl
  | _ => rfl

theorem step_below (char : Char) (rest : List Char) :
    (scan.below lines names).step mode char rest =
      stepBelow lines names (scan.step mode char rest) := by
  cases mode with
  | code => exact start_below lines names scan char
  | comment =>
    simp only [step]
    split
    · exact start_below lines names scan char
    · rfl
  | string quote =>
    simp only [step]
    repeat' split
    all_goals rfl
  | escape quote => rfl
  | number previous =>
    simp only [step]
    split
    · rfl
    · exact start_below lines names scan char
  | word letters =>
    simp only [step]
    split
    · rfl
    · rw [end_word_below]
      exact start_below lines names _ char

theorem close_below :
    (scan.below lines names).close = outcomeBelow lines (names ∪ ·) scan.close := by
  rcases scan with ⟨line, opened, afterDot, symbols⟩
  cases opened with
  | nil => rfl
  | cons innermost outer => rfl

theorem finish_below :
    (scan.below lines names).finish mode =
      outcomeBelow lines (names ∪ ·) (scan.finish mode) := by
  cases mode with
  | string quote => rfl
  | escape quote => rfl
  | word letters =>
    rw [finish, finish, end_word_below]
    exact close_below lines names _
  | _ => exact close_below lines names scan

/-- A text has the same names below a fragment, besides those of the fragment, and the same fault
further down. -/
theorem run_below (text : List Char) :
    (scan.below lines names).run mode text =
      outcomeBelow lines (names ∪ ·) (scan.run mode text) := by
  induction text generalizing scan mode with
  | nil => exact finish_below lines names scan mode
  | cons char rest induction =>
    rw [run_cons, run_cons, step_below]
    cases scan.step mode char rest with
    | error error => rfl
    | ok result => exact induction result.1 result.2

end Below

/-- Below a line the scan begins anew, with the names and the lines of what is above. -/
theorem run_line_feed (scan : Scan) (rest : List Char) (closed : scan.opened = [])
    (noDot : scan.afterDot = false) :
    scan.run .code ('\n' :: rest) = (initial.below scan.line scan.symbols).run .code rest := by
  have names : scan.symbols ∪ ∅ = scan.symbols := by
    apply NameSet.ext
    intro name
    simp [NameSet.mem_union, NameSet.not_mem_empty]
  have moved : initial.below scan.line scan.symbols = { scan with line := scan.line + 1 } := by
    simp only [below, initial, List.map_nil]
    rw [names, Nat.add_comm, closed, noDot]
  rw [moved]
  rfl

end Scan

/-- Below a fragment without a fault that does not end in a full stop, another one has the same
names, besides those of the first. A fault in it is found in the same words, and as many lines
further down as the first one takes: one, and one more for each line feed between its lexemes. -/
theorem symbols_of_stacked (upper : String) (names : NameSet) (scanned : symbols upper = .ok names)
    (noDot : ¬ EndsInDot upper.toList) :
    ∃ lexemes, Lexed upper.toList lexemes ∧ ∀ lower,
      (∀ others, symbols lower = .ok others →
        symbols (upper ++ "\n" ++ lower) = .ok (names ∪ others)) ∧
      ∀ error, symbols lower = .error error →
        symbols (upper ++ "\n" ++ lower) =
          .error ⟨error.line + (1 + lexemes.count .lineFeed), error.fault⟩ := by
  obtain ⟨lexemes, lexed⟩ := exists_lexed_of_run .initial upper.toList names scanned
  obtain ⟨last, closed, found, afterDot, passes⟩ :=
    Scan.exists_passes_above_line lexed (tracks_initial lexemes) scanned
  have noStop : last.afterDot = false := by
    rw [← Bool.not_eq_true, afterDot]
    exact mt (ends_in_dot_of_stop upper.toList lexemes lexed) noDot
  have whole : ∀ lower, symbols (upper ++ "\n" ++ lower) =
      outcomeBelow (1 + lexemes.count .lineFeed) (names ∪ ·) (symbols lower) := by
    intro lower
    have passed := passes lower.toList
    have text : (upper ++ "\n" ++ lower).toList = upper.toList ++ '\n' :: lower.toList := by
      simp [String.toList_append]
    rw [symbols, symbols, text, passed.run, last.run_line_feed _ closed noStop, Scan.run_below,
      found, passed.line]
    rfl
  refine ⟨lexemes, lexed, ?_⟩
  intro lower
  constructor
  · intro others scannedBelow
    rw [whole, scannedBelow]
    rfl
  · intro error refused
    rw [whole, refused]
    rfl

/-- A call over two lines stands above a fragment without a fault, and above one in which a bracket
is closed by one of another kind. -/
theorem symbols_of_stacked_below_call :
    let upper := "x = f(a,\n  k = 1.5)\n"
    let names := NameSet.ofList ["a", "f", "x"]
    symbols upper = .ok names ∧ ¬ EndsInDot upper.toList ∧
      symbols (upper ++ "\n" ++ "y = x.b # y.") = .ok (names ∪ .ofList ["x", "y"]) ∧
      ∃ lexemes, Lexed upper.toList lexemes ∧
        symbols (upper ++ "\n" ++ "z = [b\n)") =
          .error ⟨2 + (1 + lexemes.count .lineFeed), .unmatched ')'⟩ := by
  intro upper names
  have scanned : symbols upper = .ok names := by decide +kernel
  have noDot : ¬ EndsInDot upper.toList :=
    not_ends_in_dot upper.toList (by decide) (by decide +kernel)
  have faultless : symbols "y = x.b # y." = .ok (.ofList ["x", "y"]) := by decide +kernel
  have refused : symbols "z = [b\n)" = .error ⟨2, .unmatched ')'⟩ := by decide +kernel
  obtain ⟨lexemes, lexed, below⟩ := symbols_of_stacked upper names scanned noDot
  exact ⟨scanned, noDot, (below _).1 _ faultless, lexemes, lexed, (below _).2 _ refused⟩

end PairLoop.Fragment
