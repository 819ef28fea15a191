import PairLoop.Proofs.Fragment.Offence

/-!
The line that is reported for a fault. The scan counts the line feeds between lexemes, and the only
lexeme in which a line feed can stand is a string, where a backslash hides it. So the line is the
true one exactly if no string in front of the offending place holds a line feed.
-/

namespace PairLoop.Fragment

/-- The line feeds inside of a lexeme. -/
def Lexeme.hiddenFeeds : Lexeme → Nat
  | string _ body => body.count '\n'
  | _ => 0

def hiddenFeeds : List Lexeme → Nat
  | [] => 0
  | lexeme :: lexemes => lexeme.hiddenFeeds + hiddenFeeds lexemes

theorem not_line_feed_of_continued (previous char : Char)
    (continues : NumberContinues previous char) : char ≠ '\n' := by
  rintro rfl
  rw [number_continues_iff] at continues
  have stops : continuesNumber previous '\n' = false := by
    rw [continuesNumber]
    rfl
  rw [stops] at continues
  exact Bool.noConfusion continues

theorem line_feed_not_mem_of_chain (digits : List Char) (first : Char)
    (chain : (first :: digits).IsChain NumberContinues) : '\n' ∉ digits := by
  induction digits generalizing first with
  | nil => exact List.not_mem_nil
  | cons char digits induction =>
    rw [List.isChain_cons_cons] at chain
    rw [List.mem_cons, not_or]
    exact ⟨(not_line_feed_of_continued first char chain.1).symm, induction char chain.2⟩

/-- A line feed stands by itself or in a string. -/
theorem Lexeme.count_line_feed (lexeme : Lexeme) (wellFormed : lexeme.WellFormed) :
    lexeme.text.count '\n' = [lexeme].count .lineFeed + lexeme.hiddenFeeds := by
  have single : ∀ char : Char, char ≠ '\n' → [char].count '\n' = 0 := by
    intro char different
    exact List.count_eq_zero_of_not_mem (mt List.mem_singleton.1 different.symm)
  cases lexeme with
  | lineFeed => rfl
  | comment body =>
    rw [text, List.count_cons, List.count_eq_zero_of_not_mem wellFormed]
    rfl
  | string quote body =>
    have different : quote ≠ '\n' := by
      rintro rfl
      exact Bool.noConfusion wellFormed.1
    have outside := single quote different
    rw [text, List.count_cons, List.count_append, outside]
    simp [hiddenFeeds, different]
  | opening bracket =>
    apply single
    rintro rfl
    exact Bool.noConfusion wellFormed
  | closing bracket =>
    apply single
    rintro rfl
    exact Bool.noConfusion wellFormed
  | number digits =>
    obtain ⟨first, rest, rfl, digit⟩ := exists_of_number digits wellFormed
    apply List.count_eq_zero_of_not_mem
    rw [text, List.mem_cons, not_or]
    refine ⟨?_, line_feed_not_mem_of_chain rest first wellFormed.2⟩
    rintro rfl
    exact Bool.noConfusion digit
  | word letters =>
    apply List.count_eq_zero_of_not_mem
    intro member
    exact absurd (wellFormed.2 _ member) (by decide)
  | other char => exact single char wellFormed.1

theorem count_line_feeds (text rest : List Char) (lexemes : List Lexeme)
    (divided : LexedUpTo rest text lexemes) :
    (written lexemes).count '\n' = lexemes.count .lineFeed + hiddenFeeds lexemes := by
  induction divided with
  | nil => rfl
  | @cons _ lexemes lexeme wellFormed _ _ induction =>
    have counted := lexeme.count_line_feed wellFormed
    have more : ([lexeme] ++ lexemes).count .lineFeed =
        [lexeme].count .lineFeed + lexemes.count .lineFeed := List.count_append
    rw [List.singleton_append] at more
    rw [written, List.flatMap_cons, List.count_append, ← written, induction, counted, more,
      hiddenFeeds]
    omega

theorem Lexeme.hides_nothing_iff (lexeme : Lexeme) :
    lexeme.hiddenFeeds = 0 ↔ ∀ quote body, lexeme = .string quote body → '\n' ∉ body := by
  cases lexeme with
  | string quote body => simp [Lexeme.hiddenFeeds, List.count_eq_zero]
  | _ => simp [Lexeme.hiddenFeeds]

theorem hidden_feeds_eq_zero_iff (lexemes : List Lexeme) :
    hiddenFeeds lexemes = 0 ↔
      ∀ quote body, Lexeme.string quote body ∈ lexemes → '\n' ∉ body := by
  induction lexemes with
  | nil => simp [hiddenFeeds]
  | cons lexeme lexemes induction =>
    rw [hiddenFeeds, Nat.add_eq_zero_iff, lexeme.hides_nothing_iff, induction]
    constructor
    · rintro ⟨here, later⟩ quote body member
      rcases List.mem_cons.1 member with same | behind
      · exact here quote body same.symm
      · exact later quote body behind
    · intro none
      exact ⟨fun quote body same => none quote body (same ▸ List.mem_cons_self),
        fun quote body behind => none quote body (List.mem_cons_of_mem lexeme behind)⟩

theorem exists_divided_of_offence (text : List Char) (detail : String) (before : List Lexeme)
    (offence : Offence text detail before) : ∃ rest, LexedUpTo rest text before := by
  cases offence with
  | unmatched bracket divided => exact ⟨_, divided⟩
  | unterminated divided => exact ⟨_, divided⟩
  | unclosed bracket divided =>
    obtain ⟨after, beforeDivided, _⟩ := exists_cut _ (lexed_iff_up_to_end.1 divided)
    exact ⟨_, beforeDivided⟩

theorem line_add_hidden_feeds (code : String) (error : ParseError)
    (refused : symbols code = .error error) (detail : String) (before : List Lexeme)
    (offence : Offence code.toList detail before) :
    error.line + hiddenFeeds before = 1 + (written before).count '\n' := by
  obtain ⟨fault, found, _⟩ := run_of_offence detail before offence
  obtain ⟨rest, divided⟩ := exists_divided_of_offence _ detail before offence
  rw [symbols, found] at refused
  cases refused
  rw [count_line_feeds _ rest before divided, Nat.add_assoc]

/-- Where a fragment is refused there is an offence, and the reported line is that of the offending
place exactly if no string in front of it holds a line feed. Each line feed in such a string makes
the reported line one less. -/
theorem reported_line_iff (code : String) (error : ParseError)
    (refused : symbols code = .error error) :
    (∃ before, Offence code.toList error.fault.detail before) ∧
      ∀ before, Offence code.toList error.fault.detail before →
        written before <+: code.toList ∧
          (error.line = 1 + (written before).count '\n' ↔
            ∀ quote body, Lexeme.string quote body ∈ before → '\n' ∉ body) ∧
          error.line + hiddenFeeds before = 1 + (written before).count '\n' := by
  constructor
  · exact exists_offence_of_refused code error refused
  · intro before offence
    obtain ⟨rest, divided⟩ := exists_divided_of_offence _ _ before offence
    have lines := line_add_hidden_feeds code error refused _ before offence
    refine ⟨⟨rest, (text_eq_written divided).symm⟩, ?_, lines⟩
    rw [← hidden_feeds_eq_zero_iff]
    omega

/-- A bracket of the wrong kind on the second line, behind a string and a comment. -/
theorem reported_line_iff_of_wrong_bracket :
    let code := "x = f(y, 'u' # (\n, z]"
    let error : ParseError := ⟨2, .unmatched ']'⟩
    symbols code = .error error ∧
      (∃ before, Offence code.toList error.fault.detail before) ∧
        ∀ before, Offence code.toList error.fault.detail before →
          written before <+: code.toList ∧
            (error.line = 1 + (written before).count '\n' ↔
              ∀ quote body, Lexeme.string quote body ∈ before → '\n' ∉ body) ∧
            error.line + hiddenFeeds before = 1 + (written before).count '\n' := by
  have refused : symbols "x = f(y, 'u' # (\n, z]" = .error ⟨2, .unmatched ']'⟩ := by
    decide +kernel
  exact ⟨refused, reported_line_iff _ _ refused⟩

/-- A bracket on the second line, behind a string that goes on over the end of the first, is
reported on the first line. -/
theorem line_feed_in_string_not_counted :
    let code := "'\\\n')"
    let before := [Lexeme.string '\x27' ['\\', '\n']]
    symbols code = .error ⟨1, .unmatched ')'⟩ ∧
      Offence code.toList "unmatched ')'" before ∧
        1 + (written before).count '\n' = 2 := by
  refine ⟨by decide +kernel, ?_, by decide⟩
  have wellFormed : (Lexeme.string '\x27' ['\\', '\n']).WellFormed :=
    ⟨rfl, .escaped '\n' .nil⟩
  have longest : (Lexeme.string '\x27' ['\\', '\n']).Longest [')'] := by
    intro other otherFormed begins
    by_contra longer
    -- A longer lexeme would be the whole text, which is no string as it ends with the bracket.
    have whole := begins.eq_of_length_le (Nat.lt_of_not_le longer)
    have found := other.of_text_text otherFormed
    rw [whole] at found
    rw [← found] at whole
    exact absurd whole (by decide)
  have divided : LexedUpTo [')'] "'\\\n')".toList [.string '\x27' ['\\', '\n']] :=
    .cons _ wellFormed longest .nil
  exact .unmatched ')' divided (.closed .nil) rfl (by decide)

end PairLoop.Fragment
