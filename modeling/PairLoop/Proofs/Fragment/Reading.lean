import PairLoop.Proofs.Fragment.Lexeme

/-!
The scan of a fragment, lexeme by lexeme. In front of every lexeme the scan is in the code, and
what it keeps of a lexeme is told by `Scan.read`. A text that is scanned without a fault can be
divided into lexemes, since all its strings are closed.
-/

namespace PairLoop.Fragment

open PairLoop.Unicode

theorem begins_assignment_cons (char : Char) (rest : List Char) :
    beginsAssignment (char :: rest) =
      if isIndent char then beginsAssignment rest
      else char == '=' && rest.head? != some '=' := by
  unfold beginsAssignment
  rw [List.dropWhile_cons]
  by_cases indents : isIndent char = true
  · rw [if_pos indents, if_pos indents]
  · rw [if_neg indents, if_neg indents]
    by_cases equals : char = '='
    · cases rest with
      | nil => simp [equals]
      | cons next rest => by_cases again : next = '=' <;> simp [equals, again]
    · simp [equals]

namespace Scan

variable (scan : Scan)

theorem start_eq (char : Char) :
    scan.start char =
      match beginning char with
      | .lineFeed => .ok ({ scan with line := scan.line + 1 }, .code)
      | .comment => .ok (scan, .comment)
      | .string => .ok ({ scan with afterDot := false }, .string char)
      | .opening => .ok (scan.openBracket char, .code)
      | .closing expected =>
        (scan.closeBracket expected char).map fun closed => (closed, .code)
      | .number => .ok ({ scan with afterDot := false }, .number char)
      | .word => .ok (scan, .word [char])
      | .blank => .ok (scan, .code)
      | .sign => .ok ({ scan with afterDot := char == '.' }, .code) := by
  unfold start beginning
  repeat' split
  all_goals simp_all

/-- What the scan keeps of a lexeme and what stands behind it. -/
def read : Lexeme → List Char → Except ParseError Scan
  | .lineFeed, _ => .ok { scan with line := scan.line + 1 }
  | .comment _, _ => .ok scan
  | .string _ _, _ => .ok { scan with afterDot := false }
  | .opening bracket, _ => .ok (scan.openBracket bracket)
  | .closing bracket, _ => scan.closeBracket ((opening? bracket).getD bracket) bracket
  | .number _, _ => .ok { scan with afterDot := false }
  | .word letters, behind => .ok (scan.endWord letters.reverse behind)
  | .other char, _ =>
    .ok (if isWhiteSpace char then scan else { scan with afterDot := char == '.' })

/-- Goes on with the code behind a lexeme. -/
def runBehind (behind : List Char) : Except ParseError Scan → Except ParseError NameSet
  | .ok next => next.run .code behind
  | .error error => .error error

theorem run_cons (mode : Mode) (char : Char) (rest : List Char) :
    scan.run mode (char :: rest) =
      match scan.step mode char rest with
      | .error error => .error error
      | .ok (next, nextMode) => next.run nextMode rest :=
  rfl

theorem run_nothing : scan.run .code [] = scan.close := rfl

theorem run_comment (body behind : List Char) (sameLine : '\n' ∉ body)
    (ended : ∀ char ∈ behind.head?, char = '\n') :
    scan.run .comment (body ++ behind) = scan.run .code behind := by
  induction body with
  | nil =>
    cases behind with
    | nil => rfl
    | cons char rest =>
      rw [ended char rfl]
      rfl
  | cons char body induction =>
    rw [List.mem_cons, not_or] at sameLine
    rw [List.cons_append, run_cons, step, if_neg (Ne.symm sameLine.1)]
    exact induction sameLine.2

theorem run_string (quote : Char) (body behind : List Char) (quotes : isQuote quote = true)
    (isBody : StringBody quote body) :
    scan.run (.string quote) (body ++ quote :: behind) = scan.run .code behind := by
  induction isBody with
  | nil =>
    rw [isQuote, Bool.or_eq_true, beq_iff_eq, beq_iff_eq] at quotes
    rcases quotes with rfl | rfl <;> rfl
  | plain noQuote noEscape sameLine _ induction =>
    rw [List.cons_append, run_cons, step, if_neg sameLine, if_neg noEscape, if_neg noQuote]
    exact induction
  | escaped char _ induction => exact induction

theorem run_number (previous : Char) (digits behind : List Char)
    (continued : (previous :: digits).IsChain NumberContinues)
    (ended : ∀ last ∈ (previous :: digits).getLast?, ∀ char ∈ behind.head?,
      ¬ NumberContinues last char) :
    scan.run (.number previous) (digits ++ behind) = scan.run .code behind := by
  induction digits generalizing previous with
  | nil =>
    cases behind with
    | nil => rfl
    | cons char rest =>
      have stops := ended previous rfl char rfl
      rw [number_continues_iff] at stops
      rw [List.nil_append, run_cons, step, if_neg stops]
      rfl
  | cons char digits induction =>
    rw [List.isChain_cons_cons, number_continues_iff] at continued
    rw [List.cons_append, run_cons, step, if_pos continued.1]
    apply induction char continued.2
    rwa [List.getLast?_cons_cons] at ended

theorem run_word (letters more behind : List Char)
    (isWord : ∀ char ∈ more, continuesWord char = true)
    (ended : ∀ char ∈ behind.head?, continuesWord char = false) :
    scan.run (.word letters) (more ++ behind) =
      (scan.endWord (more.reverse ++ letters) behind).run .code behind := by
  induction more generalizing letters with
  | nil =>
    cases behind with
    | nil => rfl
    | cons char rest =>
      rw [List.nil_append, run_cons, step, ended char rfl]
      rfl
  | cons char more induction =>
    rw [List.cons_append, run_cons, step, if_pos (isWord char List.mem_cons_self)]
    have rest := induction (char :: letters) fun other member =>
      isWord other (List.mem_cons_of_mem char member)
    rw [List.reverse_cons, List.append_assoc]
    exact rest

end Scan

namespace Lexeme

/-- A longest lexeme cannot be extended by the code point behind it. -/
theorem not_well_formed_of_longest (lexeme other : Lexeme) (char : Char) (rest : List Char)
    (longest : lexeme.Longest (char :: rest)) (extended : other.text = lexeme.text ++ [char]) :
    ¬ other.WellFormed := by
  intro wellFormed
  have begins : other.text <+: lexeme.text ++ char :: rest := ⟨rest, by simp [extended]⟩
  have notLonger := longest other wellFormed begins
  rw [extended, List.length_append, List.length_singleton] at notLonger
  omega

theorem ended_of_longest_comment (body behind : List Char)
    (wellFormed : (comment body).WellFormed) (longest : (comment body).Longest behind) :
    ∀ char ∈ behind.head?, char = '\n' := by
  intro char first
  obtain ⟨rest, rfl⟩ := List.head?_eq_some_iff.1 first
  by_contra sameLine
  apply not_well_formed_of_longest _ (comment (body ++ [char])) char rest longest rfl
  change '\n' ∉ body ++ [char]
  rw [List.mem_append, List.mem_singleton, not_or]
  exact ⟨wellFormed, Ne.symm sameLine⟩

theorem ended_of_longest_number (digits behind : List Char)
    (wellFormed : (number digits).WellFormed) (longest : (number digits).Longest behind) :
    ∀ last ∈ digits.getLast?, ∀ char ∈ behind.head?, ¬ NumberContinues last char := by
  intro last ends char first continues
  obtain ⟨rest, rfl⟩ := List.head?_eq_some_iff.1 first
  apply not_well_formed_of_longest _ (number (digits ++ [char])) char rest longest rfl
  obtain ⟨⟨head, heads, digit⟩, chain⟩ := wellFormed
  refine ⟨⟨head, by rw [List.head?_append, heads]; rfl, digit⟩, ?_⟩
  apply List.isChain_append.2
  refine ⟨chain, List.isChain_singleton char, ?_⟩
  intro other otherEnds next single
  rw [Option.mem_unique otherEnds ends, ← Option.some.inj single]
  exact continues

theorem ended_of_longest_word (letters behind : List Char)
    (wellFormed : (word letters).WellFormed) (longest : (word letters).Longest behind) :
    ∀ char ∈ behind.head?, continuesWord char = false := by
  intro char first
  obtain ⟨rest, rfl⟩ := List.head?_eq_some_iff.1 first
  apply Bool.eq_false_iff.2
  intro continues
  apply not_well_formed_of_longest _ (word (letters ++ [char])) char rest longest rfl
  obtain ⟨⟨head, heads, starts⟩, isWord⟩ := wellFormed
  refine ⟨⟨head, by rw [List.head?_append, heads]; rfl, starts⟩, ?_⟩
  intro other member
  rcases List.mem_append.1 member with inside | last
  · exact isWord other inside
  · rw [List.mem_singleton.1 last, continues]

end Lexeme

namespace Scan

theorem run_digits (scan : Scan) (digits behind : List Char)
    (wellFormed : (Lexeme.number digits).WellFormed)
    (ended : ∀ last ∈ digits.getLast?, ∀ char ∈ behind.head?, ¬ NumberContinues last char) :
    scan.run .code (digits ++ behind) = run { scan with afterDot := false } .code behind := by
  obtain ⟨first, rest, rfl, digit⟩ := Lexeme.exists_of_number digits wellFormed
  have started : scan.start first = .ok ({ scan with afterDot := false }, .number first) := by
    rw [start_eq, Lexeme.beginning_of_number first digit]
  rw [List.cons_append, run_cons, step, started]
  exact run_number _ first rest behind wellFormed.2 ended

theorem run_letters (scan : Scan) (letters behind : List Char)
    (wellFormed : (Lexeme.word letters).WellFormed)
    (ended : ∀ char ∈ behind.head?, continuesWord char = false) :
    scan.run .code (letters ++ behind) =
      (scan.endWord letters.reverse behind).run .code behind := by
  obtain ⟨first, rest, rfl, starts⟩ := Lexeme.exists_of_word letters wellFormed
  have started : scan.start first = .ok (scan, .word [first]) := by
    rw [start_eq, Lexeme.beginning_of_word first starts]
  have restIsWord : ∀ char ∈ rest, continuesWord char = true :=
    fun char member => wellFormed.2 char (List.mem_cons_of_mem first member)
  rw [List.cons_append, run_cons, step, started, List.reverse_cons]
  exact scan.run_word [first] rest behind restIsWord ended

/-- Reading a text from the code is reading its first lexeme and then what stands behind it. -/
theorem run_lexeme (scan : Scan) (lexeme : Lexeme) (behind : List Char)
    (wellFormed : lexeme.WellFormed) (longest : lexeme.Longest behind) :
    scan.run .code (lexeme.text ++ behind) = runBehind behind (scan.read lexeme behind) := by
  cases lexeme with
  | lineFeed => rfl
  | comment body =>
    exact scan.run_comment body behind wellFormed
      (Lexeme.ended_of_longest_comment body behind wellFormed longest)
  | string quote body =>
    have started : scan.start quote = .ok ({ scan with afterDot := false }, .string quote) := by
      rw [start_eq, beginning_of_quote quote wellFormed.1]
    rw [Lexeme.text, List.cons_append, run_cons, step, started, List.append_assoc]
    exact run_string _ quote body behind wellFormed.1 wellFormed.2
  | opening bracket =>
    have started : scan.start bracket = .ok (scan.openBracket bracket, .code) := by
      rw [start_eq, beginning_of_opening bracket wellFormed]
    rw [Lexeme.text, List.singleton_append, run_cons, step, started]
    rfl
  | closing bracket =>
    obtain ⟨expected, closes⟩ := Option.isSome_iff_exists.1 wellFormed
    have started : scan.start bracket =
        (scan.closeBracket expected bracket).map fun closed => (closed, .code) := by
      rw [start_eq, beginning_of_closing bracket expected closes]
    rw [Lexeme.text, List.singleton_append, run_cons, step, started, read, closes,
      Option.getD_some]
    cases scan.closeBracket expected bracket with
    | error error => rfl
    | ok closed => rfl
  | number digits =>
    exact scan.run_digits digits behind wellFormed
      (Lexeme.ended_of_longest_number digits behind wellFormed longest)
  | word letters =>
    exact scan.run_letters letters behind wellFormed
      (Lexeme.ended_of_longest_word letters behind wellFormed longest)
  | other char =>
    rw [Lexeme.text, List.singleton_append, run_cons, step, start_eq,
      Lexeme.beginning_of_other char wellFormed, read]
    by_cases blank : isWhiteSpace char = true
    · rw [if_pos blank, if_pos blank]
      rfl
    · rw [if_neg blank, if_neg blank]
      rfl

theorem exists_read_of_run (scan : Scan) (lexeme : Lexeme) (behind : List Char) (names : NameSet)
    (wellFormed : lexeme.WellFormed) (longest : lexeme.Longest behind)
    (scanned : scan.run .code (lexeme.text ++ behind) = .ok names) :
    ∃ next, scan.read lexeme behind = .ok next ∧ next.run .code behind = .ok names := by
  rw [scan.run_lexeme lexeme behind wellFormed longest] at scanned
  cases found : scan.read lexeme behind with
  | error error =>
    rw [found] at scanned
    cases scanned
  | ok next =>
    rw [found] at scanned
    exact ⟨next, rfl, scanned⟩

/-- A string that is not closed is a fault. Behind a backslash one more code point stands in front
of the rest of the string. -/
theorem run_unclosed_string (scan : Scan) (quote : Char) (behind : List Char) :
    (¬ ClosesString quote behind →
      scan.run (.string quote) behind = .error (scan.fail .unterminatedString)) ∧
    ((∀ char rest, behind = char :: rest → ¬ ClosesString quote rest) →
      scan.run (.escape quote) behind = .error (scan.fail .unterminatedString)) := by
  induction behind with
  | nil => exact ⟨fun _ => rfl, fun _ => rfl⟩
  | cons char rest induction =>
    constructor
    · intro unclosed
      rw [run_cons, step]
      by_cases lineEnds : char = '\n'
      · rw [if_pos lineEnds]
      · rw [if_neg lineEnds]
        by_cases escapes : char = '\\'
        · rw [if_pos escapes]
          apply induction.2
          rintro hidden others rfl ⟨body, more, rfl, isBody⟩
          exact unclosed ⟨'\\' :: hidden :: body, more, by rw [escapes]; rfl,
            .escaped hidden isBody⟩
        · rw [if_neg escapes]
          by_cases closes : char = quote
          · exact absurd ⟨[], rest, by rw [closes]; rfl, .nil⟩ unclosed
          · rw [if_neg closes]
            apply induction.1
            rintro ⟨body, more, rfl, isBody⟩
            exact unclosed ⟨char :: body, more, rfl, .plain closes escapes lineEnds isBody⟩
    · intro unclosed
      exact induction.1 (unclosed char rest rfl)

/-- A text that is scanned without a fault begins with a lexeme. -/
theorem exists_lexeme_of_run (scan : Scan) (char : Char) (rest : List Char) (names : NameSet)
    (scanned : scan.run .code (char :: rest) = .ok names) :
    ∃ lexeme : Lexeme, lexeme.WellFormed ∧ lexeme.text <+: char :: rest := by
  apply Lexeme.exists_well_formed char rest
  intro quotes
  have started : scan.start char = .ok ({ scan with afterDot := false }, .string char) := by
    rw [start_eq, beginning_of_quote char quotes]
  rw [run_cons, step, started] at scanned
  by_contra unclosed
  have refused := (run_unclosed_string { scan with afterDot := false } char rest).1 unclosed
  cases refused.symm.trans scanned

end Scan

/-- A text that is scanned without a fault can be divided into lexemes. -/
theorem exists_lexed_of_run (scan : Scan) (text : List Char) (names : NameSet)
    (scanned : scan.run .code text = .ok names) : ∃ lexemes, Lexed text lexemes := by
  induction size : text.length using Nat.strongRecOn generalizing scan text with
  | ind size induction =>
    cases text with
    | nil => exact ⟨[], .nil⟩
    | cons char rest =>
      obtain ⟨lexeme, formed, begins⟩ := scan.exists_lexeme_of_run char rest names scanned
      obtain ⟨longest, behind, wellFormed, split, isLongest⟩ :=
        Lexeme.exists_longest (char :: rest) lexeme formed begins
      rw [split] at scanned
      obtain ⟨next, _, scannedBehind⟩ :=
        scan.exists_read_of_run longest behind names wellFormed isLongest scanned
      have positive := List.length_pos_iff.2 (longest.text_ne_nil wellFormed)
      rw [split, List.length_append] at size
      obtain ⟨lexemes, lexed⟩ := induction behind.length (by omega) next behind scannedBehind rfl
      exact ⟨longest :: lexemes, split ▸ .cons longest wellFormed isLongest lexed⟩

end PairLoop.Fragment
