import PairLoop.Proofs.Fragment.Division

/-!
The faults of a fragment, told without the scan. A fragment is faultless if all its strings are
closed and its brackets are nested. Otherwise there is a first offence from the left, a closing
bracket without its opening one or a string that is not closed, or else a bracket that stays open.
The scan finds a fault exactly where there is an offence, and it finds that one.
-/

namespace PairLoop.Fragment

/-- Every string literal of a text is closed. What a lexeme contains begins no literal, so a quote
in a comment or in another string does not count. -/
def StringsClosed (text : List Char) : Prop :=
  ∀ before quote behind, LexedUpTo (quote :: behind) text before → isQuote quote = true →
    ClosesString quote behind

/-- What is wrong with a text, in words, and the lexemes in front of the offending place. All
strings in front of it are closed, and every closing bracket there meets an open one of its kind. -/
inductive Offence (text : List Char) : String → List Lexeme → Prop
  /-- A closing bracket for which no bracket is open, or the innermost is of another kind. -/
  | unmatched {before : List Lexeme} {opened behind : List Char} {expected : Char} (bracket : Char)
      (divided : LexedUpTo (bracket :: behind) text before)
      (leaves : Leaves (brackets before) opened) (closes : opening? bracket = some expected)
      (mismatched : opened.head? ≠ some expected) :
      Offence text ("unmatched '" ++ bracket.toString ++ "'") before
  /-- The quote of a string that is not closed. -/
  | unterminated {before : List Lexeme} {opened behind : List Char} {quote : Char}
      (divided : LexedUpTo (quote :: behind) text before)
      (leaves : Leaves (brackets before) opened) (quotes : isQuote quote = true)
      (unclosed : ¬ ClosesString quote behind) :
      Offence text "unterminated string literal" before
  /-- The innermost of the brackets that are open at the end: those behind it are nested. -/
  | unclosed {before behind : List Lexeme} {opened : List Char} (bracket : Char)
      (divided : Lexed text (before ++ .opening bracket :: behind))
      (leaves : Leaves (brackets before) opened) (nested : Nested (brackets behind)) :
      Offence text ("unclosed '" ++ bracket.toString ++ "'") before

section Found

variable {text : List Char}

theorem close_bracket_of_mismatch (scan : Scan) (expected bracket : Char)
    (mismatched : (scan.opened.map Prod.fst).head? ≠ some expected) :
    scan.closeBracket expected bracket = .error (scan.fail (.unmatched bracket)) := by
  cases found : scan.closeBracket expected bracket with
  | ok closed =>
    obtain ⟨line, outer, opened, _⟩ := (close_bracket_eq_ok_iff expected bracket).1 found
    rw [opened] at mismatched
    exact absurd rfl mismatched
  | error error =>
    unfold Scan.closeBracket at found
    split at found
    · split at found
      · cases found
      · exact found.symm
    · exact found.symm

/-- The scan answers an offence in its words, with the number of line feeds between the lexemes
in front of it. -/
theorem run_of_offence (detail : String) (before : List Lexeme)
    (offence : Offence text detail before) :
    ∃ fault, Scan.initial.run .code text = .error ⟨1 + before.count .lineFeed, fault⟩ ∧
      fault.detail = detail := by
  cases offence with
  | @unmatched _ opened behind expected bracket divided leaves closes mismatched =>
    obtain ⟨scan, passes, scanOpened⟩ :=
      Scan.exists_passes_of_leaves _ opened leaves .initial rfl divided rfl
    have refused := close_bracket_of_mismatch scan expected bracket (scanOpened ▸ mismatched)
    refine ⟨.unmatched bracket, ?_, rfl⟩
    rw [passes.run, Scan.run_cons, Scan.step, Scan.start_eq,
      beginning_of_closing bracket expected closes]
    simp only [refused, Except.map, Scan.fail, passes.line]
    rfl
  | @unterminated _ opened behind quote divided leaves quotes unclosed =>
    obtain ⟨scan, passes, _⟩ :=
      Scan.exists_passes_of_leaves _ opened leaves .initial rfl divided rfl
    refine ⟨.unterminatedString, ?_, rfl⟩
    rw [passes.run, Scan.run_cons, Scan.step, Scan.start_eq, beginning_of_quote quote quotes]
    simp only
    rw [(Scan.run_unclosed_string _ quote behind).1 unclosed, Scan.fail, passes.line]
    rfl
  | @unclosed _ behind opened bracket divided leaves nested =>
    obtain ⟨_, beforeDivided, wellFormed, longest, behindDivided⟩ :=
      exists_cut _ (lexed_iff_up_to_end.1 divided)
    obtain ⟨scan, passes, _⟩ :=
      Scan.exists_passes_of_leaves _ opened leaves .initial rfl beforeDivided rfl
    have overOpening := Scan.passes_opening scan bracket wellFormed longest
    obtain ⟨last, overBehind, lastOpened⟩ := Scan.exists_passes_of_nested _ nested
      (scan.openBracket bracket) behindDivided rfl
    refine ⟨.unclosed bracket, ?_, rfl⟩
    rw [passes.run, overOpening.run, overBehind.run, last.run_nothing, Scan.close, lastOpened,
      Scan.openBracket, passes.line]
    rfl

theorem exists_names_of_nested (lexemes : List Lexeme) (lexed : Lexed text lexemes)
    (nested : Nested (brackets lexemes)) :
    ∃ names, Scan.initial.run .code text = .ok names := by
  obtain ⟨last, passes, lastOpened⟩ :=
    Scan.exists_passes_of_nested _ nested .initial (lexed_iff_up_to_end.1 lexed) rfl
  refine ⟨last.symbols, ?_⟩
  rw [passes.run, last.run_nothing, Scan.close, lastOpened]
  rfl

end Found

section Search

variable {text : List Char}

/-- Every closing bracket still meets an open one of its kind with a further lexeme, unless this
is one that does not. -/
theorem leaves_more (before : List Lexeme) (opened : List Char) (lexeme : Lexeme)
    (wellFormed : lexeme.WellFormed) (leaves : Leaves (brackets before) opened) :
    (∃ opened, Leaves (brackets (before ++ [lexeme])) opened) ∨
      ∃ bracket expected, lexeme = .closing bracket ∧ opening? bracket = some expected ∧
        opened.head? ≠ some expected := by
  rw [brackets_append]
  cases lexeme with
  | opening bracket => exact .inl ⟨_, leaves_open _ opened bracket wellFormed leaves⟩
  | closing bracket =>
    obtain ⟨expected, closes⟩ := Option.isSome_iff_exists.1 wellFormed
    by_cases meets : opened.head? = some expected
    · obtain ⟨outer, rfl⟩ := List.head?_eq_some_iff.1 meets
      exact .inl ⟨outer, leaves_close _ outer expected bracket closes leaves⟩
    · exact .inr ⟨bracket, expected, rfl, closes, meets⟩
  | _ => exact .inl ⟨opened, by simpa [Lexeme.bracket?] using leaves⟩

theorem nested_or_unclosed (lexemes : List Lexeme) (opened : List Char)
    (lexed : Lexed text lexemes) (leaves : Leaves (brackets lexemes) opened) :
    Nested (brackets lexemes) ∨ ∃ detail before, Offence text detail before := by
  generalize same : brackets lexemes = word at leaves
  cases leaves with
  | closed nested => exact .inl nested
  | opened bracket opens outer nested =>
    obtain ⟨before, lexeme, behind, rfl, rfl, found, rfl⟩ :=
      exists_bracket_lexeme lexemes _ _ bracket same
    obtain ⟨_, _, wellFormed, _, _⟩ := exists_cut lexeme (lexed_iff_up_to_end.1 lexed)
    have isOpening := lexeme.eq_opening_of_bracket bracket wellFormed found opens
    subst isOpening
    exact .inr ⟨_, before, .unclosed bracket lexed outer nested⟩

/-- From a place up to which there is no offence, one is found in the rest, or there is none. -/
theorem nested_or_offence_behind (rest opened : List Char) (before : List Lexeme)
    (divided : LexedUpTo rest text before) (leaves : Leaves (brackets before) opened) :
    (∃ lexemes, Lexed text lexemes ∧ Nested (brackets lexemes)) ∨
      ∃ detail before, Offence text detail before := by
  induction size : rest.length using Nat.strongRecOn generalizing rest opened before with
  | ind size induction =>
    cases rest with
    | nil =>
      have lexed := lexed_iff_up_to_end.2 divided
      rcases nested_or_unclosed before opened lexed leaves with nested | offence
      · exact .inl ⟨before, lexed, nested⟩
      · exact .inr offence
    | cons char rest =>
      by_cases unclosed : isQuote char = true ∧ ¬ ClosesString char rest
      · exact .inr ⟨_, before, .unterminated divided leaves unclosed.1 unclosed.2⟩
      rw [not_and, not_not] at unclosed
      obtain ⟨some, formed, begins⟩ := Lexeme.exists_well_formed char rest unclosed
      obtain ⟨lexeme, behind, wellFormed, split, longest⟩ :=
        Lexeme.exists_longest (char :: rest) some formed begins
      have positive := List.length_pos_iff.2 (lexeme.text_ne_nil wellFormed)
      rw [split] at divided
      rw [split, List.length_append] at size
      rcases leaves_more before opened lexeme wellFormed leaves with
        ⟨more, moreLeaves⟩ | ⟨bracket, expected, rfl, closes, mismatched⟩
      · have further := lexed_up_to_append divided (.cons lexeme wellFormed longest .nil)
        exact induction behind.length (by omega) behind more _ further moreLeaves rfl
      · exact .inr ⟨_, before, .unmatched bracket divided leaves closes mismatched⟩

/-- A text is faultless, or there is an offence in it. -/
theorem nested_or_offence (text : List Char) :
    (∃ lexemes, Lexed text lexemes ∧ Nested (brackets lexemes)) ∨
      ∃ detail before, Offence text detail before :=
  nested_or_offence_behind text [] [] .nil (.closed .nil)

end Search

/-- The strings of a text that is divided into lexemes are closed. -/
theorem strings_closed_of_lexed (text : List Char) (lexemes : List Lexeme)
    (lexed : Lexed text lexemes) : StringsClosed text := by
  intro before quote behind divided quotes
  obtain ⟨more, rfl, lexedRest⟩ := exists_lexed_rest divided lexed
  generalize whole : quote :: behind = rest at lexedRest
  cases lexedRest with
  | nil => cases whole
  | cons lexeme wellFormed longest lexedBehind =>
    obtain ⟨char, others, split⟩ := List.exists_cons_of_ne_nil (lexeme.text_ne_nil wellFormed)
    rw [split, List.cons_append] at whole
    obtain ⟨rfl, rfl⟩ := List.cons.inj whole
    obtain ⟨body, rfl⟩ : ∃ body, lexeme = .string quote body := by
      refine ⟨others.dropLast, ?_⟩
      rw [← lexeme.of_text_text wellFormed, split, Lexeme.ofText, beginning_of_quote quote quotes]
    cases split
    exact ⟨body, _, List.append_assoc body [quote] _, wellFormed.2⟩

theorem exists_offence_of_refused (code : String) (error : ParseError)
    (refused : symbols code = .error error) :
    ∃ before, Offence code.toList error.fault.detail before := by
  rcases nested_or_offence code.toList with ⟨lexemes, lexed, nested⟩ | ⟨detail, before, offence⟩
  · obtain ⟨names, scanned⟩ := exists_names_of_nested lexemes lexed nested
    rw [symbols, scanned] at refused
    cases refused
  · obtain ⟨fault, found, words⟩ := run_of_offence detail before offence
    rw [symbols, found] at refused
    cases refused
    exact ⟨before, words ▸ offence⟩

/-- A fragment is scanned without a fault exactly if all its strings are closed and its brackets
are nested. Otherwise the scan answers the first offence, in its words. -/
theorem symbols_or_offence (code : String) :
    ((∃ names, symbols code = .ok names) ↔
      StringsClosed code.toList ∧
        ∃ lexemes, Lexed code.toList lexemes ∧ Nested (brackets lexemes)) ∧
    ∀ detail, (∃ error, symbols code = .error error ∧ error.fault.detail = detail) ↔
      ∃ before, Offence code.toList detail before := by
  constructor
  · constructor
    · rintro ⟨names, scanned⟩
      rcases nested_or_offence code.toList with ⟨lexemes, lexed, nested⟩ | ⟨detail, before, offence⟩
      · exact ⟨strings_closed_of_lexed _ lexemes lexed, lexemes, lexed, nested⟩
      · obtain ⟨fault, refused, _⟩ := run_of_offence detail before offence
        rw [symbols, refused] at scanned
        cases scanned
    · rintro ⟨_, lexemes, lexed, nested⟩
      exact exists_names_of_nested lexemes lexed nested
  · intro detail
    constructor
    · rintro ⟨error, refused, rfl⟩
      exact exists_offence_of_refused code error refused
    · rintro ⟨before, offence⟩
      obtain ⟨fault, found, words⟩ := run_of_offence detail before offence
      exact ⟨_, found, words⟩

end PairLoop.Fragment
