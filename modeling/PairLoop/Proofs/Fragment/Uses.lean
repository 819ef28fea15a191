import PairLoop.Proofs.Fragment.Nesting
import PairLoop.Proofs.Fragment.Reading

/-!
Which words of a fragment count as names that it uses, told by the lexemes before and behind a
word. The scan, which reads a text once and has seen only what is before, finds exactly these: its
mark of a full stop, its open brackets and its names are those of the lexemes that it has read.
-/

namespace PairLoop.Fragment

open PairLoop.Unicode

def Lexeme.bracket? : Lexeme → Option Char
  | opening bracket => some bracket
  | closing bracket => some bracket
  | _ => none

def brackets (lexemes : List Lexeme) : List Char := lexemes.filterMap Lexeme.bracket?

/-- Whether a lexeme is more than white space or a comment. -/
def Lexeme.isSignificant : Lexeme → Bool
  | lineFeed => false
  | comment _ => false
  | other char => !isWhiteSpace char
  | _ => true

/-- The last significant lexeme is a full stop. -/
def EndsInStop (lexemes : List Lexeme) : Prop :=
  (lexemes.filter Lexeme.isSignificant).getLast? = some (.other '.')

/-- Of the brackets that are left open, the innermost is a parenthesis. -/
def EndsInParentheses (lexemes : List Lexeme) : Prop :=
  ∃ outer inner, brackets lexemes = outer ++ '(' :: inner ∧ Nested inner

def Lexeme.isGap : Lexeme → Bool
  | other char => isIndent char
  | _ => false

/-- Behind spaces and tabs an equals sign comes, and not at once another one. -/
def BeginsAssignment (lexemes : List Lexeme) : Prop :=
  ∃ rest, lexemes.dropWhile Lexeme.isGap = .other '=' :: rest ∧ rest.head? ≠ some (.other '=')

/-- Between these lexemes a word counts as a name that is used: it is no keyword, no attribute and
not the name of an argument in a call. -/
structure Counts (before : List Lexeme) (name : String) (behind : List Lexeme) : Prop where
  noKeyword : name ∉ keywords
  noAttribute : ¬ EndsInStop before
  noArgument : ¬ (EndsInParentheses before ∧ BeginsAssignment behind)

/-- The names that lexemes use are the words among them that count. -/
def Uses (lexemes : List Lexeme) (name : String) : Prop :=
  ∃ before behind, lexemes = before ++ .word name.toList :: behind ∧ Counts before name behind

section Ahead

/-- A space, a tab or an equals sign is a lexeme by itself. -/
theorem Lexeme.eq_other_of_head (lexeme : Lexeme) (wellFormed : lexeme.WellFormed) (char : Char)
    (more : List Char) (split : lexeme.text = char :: more)
    (alone : beginning char = .blank ∨ beginning char = .sign) : lexeme = .other char := by
  rw [← of_text_text lexeme wellFormed, split, ofText]
  rcases alone with blank | sign
  · rw [blank]
  · rw [sign]

theorem beginning_of_indent (char : Char) (indents : isIndent char = true) :
    beginning char = .blank := by
  rw [isIndent, Bool.or_eq_true, beq_iff_eq, beq_iff_eq] at indents
  rcases indents with rfl | rfl <;> rfl

theorem Lexeme.equals_iff (lexeme : Lexeme) (wellFormed : lexeme.WellFormed) (char : Char)
    (more : List Char) (split : lexeme.text = char :: more) :
    char = '=' ↔ lexeme = .other '=' := by
  constructor
  · rintro rfl
    exact lexeme.eq_other_of_head wellFormed '=' more split (.inr rfl)
  · rintro rfl
    exact (List.cons.inj split).1.symm

theorem head_equals_iff (text : List Char) (lexemes : List Lexeme) (lexed : Lexed text lexemes) :
    text.head? = some '=' ↔ lexemes.head? = some (.other '=') := by
  cases lexed with
  | nil => simp
  | cons lexeme wellFormed longest behind =>
    obtain ⟨char, more, split⟩ := List.exists_cons_of_ne_nil (lexeme.text_ne_nil wellFormed)
    rw [split, List.cons_append, List.head?_cons, List.head?_cons, Option.some_inj, Option.some_inj]
    exact lexeme.equals_iff wellFormed char more split

theorem begins_assignment_iff (text : List Char) (lexemes : List Lexeme)
    (lexed : Lexed text lexemes) :
    beginsAssignment text = true ↔ BeginsAssignment lexemes := by
  induction lexed with
  | nil => simp [beginsAssignment, BeginsAssignment]
  | @cons behind rest lexeme wellFormed longest lexed induction =>
    obtain ⟨char, more, split⟩ := List.exists_cons_of_ne_nil (lexeme.text_ne_nil wellFormed)
    rw [split, List.cons_append, begins_assignment_cons]
    by_cases indents : isIndent char = true
    · have alone := lexeme.eq_other_of_head wellFormed char more split
        (.inl (beginning_of_indent char indents))
      subst alone
      cases split
      rw [if_pos indents, List.nil_append, induction, BeginsAssignment, BeginsAssignment,
        List.dropWhile_cons, Lexeme.isGap, if_pos indents]
    · have stays : lexeme.isGap = false := by
        cases lexeme with
        | other found =>
          cases split
          exact Bool.eq_false_iff.2 indents
        | _ => rfl
      rw [if_neg indents, BeginsAssignment, List.dropWhile_cons, stays, Bool.and_eq_true,
        beq_iff_eq, bne_iff_ne]
      constructor
      · rintro ⟨equals, single⟩
        have alone := (lexeme.equals_iff wellFormed char more split).1 equals
        subst alone
        cases split
        exact ⟨rest, rfl, mt (head_equals_iff behind rest lexed).2 single⟩
      · rintro ⟨others, same, single⟩
        cases same
        cases split
        exact ⟨rfl, mt (head_equals_iff behind rest lexed).1 single⟩

end Ahead

section Before

theorem ends_in_stop_append (before : List Lexeme) (lexeme : Lexeme) :
    EndsInStop (before ++ [lexeme]) ↔
      if lexeme.isSignificant then lexeme = .other '.' else EndsInStop before := by
  unfold EndsInStop
  cases significant : lexeme.isSignificant with
  | true => simp [significant]
  | false => simp [significant]

theorem brackets_append (before : List Lexeme) (lexeme : Lexeme) :
    brackets (before ++ [lexeme]) = brackets before ++ lexeme.bracket?.toList := by
  cases found : lexeme.bracket? with
  | none => simp [brackets, found]
  | some bracket => simp [brackets, found]

/-- The words that count among the lexemes that are read, told with the lexemes ahead. -/
def UsesBefore (before : List Lexeme) (name : String) (ahead : List Lexeme) : Prop :=
  ∃ earlier between, before = earlier ++ .word name.toList :: between ∧
    Counts earlier name (between ++ ahead)

theorem uses_before_append_iff (before ahead : List Lexeme) (lexeme : Lexeme) (name : String) :
    UsesBefore (before ++ [lexeme]) name ahead ↔
      UsesBefore before name (lexeme :: ahead) ∨
        lexeme = .word name.toList ∧ Counts before name ahead := by
  constructor
  · rintro ⟨earlier, between, split, counts⟩
    rcases List.eq_nil_or_concat between with rfl | ⟨inner, last, rfl⟩
    · obtain ⟨rfl, single⟩ := List.append_inj' split rfl
      exact .inr ⟨(List.cons.inj single).1, counts⟩
    · rw [List.concat_eq_append, ← List.cons_append, ← List.append_assoc] at split
      obtain ⟨rfl, single⟩ := List.append_inj' split rfl
      cases single
      rw [List.concat_eq_append, List.append_assoc] at counts
      exact .inl ⟨earlier, inner, rfl, counts⟩
  · rintro (⟨earlier, between, rfl, counts⟩ | ⟨rfl, counts⟩)
    · refine ⟨earlier, between ++ [lexeme], by simp, ?_⟩
      rw [List.append_assoc]
      exact counts
    · exact ⟨before, [], rfl, counts⟩

/-- What the scan knows is what the lexemes that it has read tell. -/
structure Tracks (before ahead : List Lexeme) (scan : Scan) : Prop where
  afterDot : scan.afterDot = true ↔ EndsInStop before
  opened : Leaves (brackets before) (scan.opened.map Prod.fst)
  symbols : ∀ name, name ∈ scan.symbols ↔ UsesBefore before name ahead

variable {before ahead : List Lexeme} {scan next : Scan}

theorem inside_parentheses_iff (tracks : Tracks before ahead scan) :
    scan.insideParentheses = true ↔ EndsInParentheses before := by
  have innermost : scan.insideParentheses = true ↔ (scan.opened.map Prod.fst).head? = some '(' := by
    unfold Scan.insideParentheses
    cases scan.opened with
    | nil => simp
    | cons bracket outer => simp
  rw [innermost]
  exact head_open_iff _ _ tracks.opened '(' rfl

/-- A lexeme that is not a word adds no name. -/
theorem uses_before_of_not_word (lexeme : Lexeme) (tracks : Tracks before (lexeme :: ahead) scan)
    (noWord : ∀ letters, lexeme ≠ .word letters) (same : next.symbols = scan.symbols)
    (name : String) : name ∈ next.symbols ↔ UsesBefore (before ++ [lexeme]) name ahead := by
  rw [same, tracks.symbols, uses_before_append_iff]
  exact (or_iff_left fun word => noWord _ word.1).symm

theorem not_ends_in_stop_append (lexeme : Lexeme) (significant : lexeme.isSignificant = true)
    (different : lexeme ≠ .other '.') : ¬ EndsInStop (before ++ [lexeme]) := by
  rw [ends_in_stop_append, if_pos significant]
  exact different

/-- A lexeme that is neither a word nor a bracket changes the mark of a full stop at most. -/
theorem tracks_of_mark (lexeme : Lexeme) (tracks : Tracks before (lexeme :: ahead) scan)
    (noWord : ∀ letters, lexeme ≠ .word letters) (noBracket : lexeme.bracket? = none)
    (sameOpened : next.opened = scan.opened) (sameSymbols : next.symbols = scan.symbols)
    (mark : next.afterDot = true ↔ EndsInStop (before ++ [lexeme])) :
    Tracks (before ++ [lexeme]) ahead next := by
  refine ⟨mark, ?_, uses_before_of_not_word lexeme tracks noWord sameSymbols⟩
  rw [brackets_append, noBracket, Option.toList_none, List.append_nil, sameOpened]
  exact tracks.opened

theorem close_bracket_eq_ok_iff (expected bracket : Char) :
    scan.closeBracket expected bracket = .ok next ↔
      ∃ line outer, scan.opened = (expected, line) :: outer ∧
        next = { scan with opened := outer, afterDot := false } := by
  unfold Scan.closeBracket
  split
  · next found line outer opened =>
    rw [opened]
    by_cases same : found = expected
    · rw [if_pos same, same, Except.ok.injEq]
      constructor
      · intro closed
        exact ⟨line, outer, rfl, closed.symm⟩
      · rintro ⟨otherLine, otherOuter, split, closed⟩
        cases split
        exact closed.symm
    · rw [if_neg same]
      constructor
      · intro closed
        cases closed
      · rintro ⟨otherLine, otherOuter, split, _⟩
        exact absurd (Prod.mk.inj (List.cons.inj split).1).1 same
  · next opened =>
    rw [opened]
    constructor
    · intro closed
      cases closed
    · rintro ⟨line, outer, split, _⟩
      cases split

theorem mem_read_word_iff (letters behind : List Char) (lexed : Lexed behind ahead)
    (tracks : Tracks before (.word letters :: ahead) scan) (name : String) :
    name ∈ (scan.endWord letters.reverse behind).symbols ↔
      UsesBefore (before ++ [.word letters]) name ahead := by
  have counted : (!scan.afterDot && !(scan.insideParentheses && beginsAssignment behind) &&
      !keywords.contains (String.ofList letters)) = true ↔
        Counts before (String.ofList letters) ahead := by
    have keyword : keywords.contains (String.ofList letters) = true ↔
        String.ofList letters ∈ keywords := List.contains_iff_mem
    rw [Bool.and_eq_true, Bool.and_eq_true, Bool.not_eq_true', Bool.not_eq_true',
      Bool.not_eq_true', ← Bool.not_eq_true, ← Bool.not_eq_true, ← Bool.not_eq_true, keyword,
      Bool.and_eq_true, tracks.afterDot, inside_parentheses_iff tracks,
      begins_assignment_iff behind ahead lexed]
    constructor
    · rintro ⟨⟨noAttribute, noArgument⟩, noKeyword⟩
      exact ⟨noKeyword, noAttribute, noArgument⟩
    · rintro ⟨noKeyword, noAttribute, noArgument⟩
      exact ⟨⟨noAttribute, noArgument⟩, noKeyword⟩
  have isWord : Lexeme.word letters = .word name.toList ↔ name = String.ofList letters := by
    rw [Lexeme.word.injEq, String.ext_iff, String.toList_ofList]
    exact eq_comm
  rw [uses_before_append_iff, ← tracks.symbols, isWord, Scan.endWord, List.reverse_reverse]
  by_cases counts : Counts before (String.ofList letters) ahead
  · rw [if_pos (counted.2 counts), NameSet.mem_insert, or_comm]
    apply or_congr_right
    constructor
    · rintro rfl
      exact ⟨rfl, counts⟩
    · exact And.left
  · rw [if_neg (mt counted.1 counts)]
    symm
    apply or_iff_left
    rintro ⟨rfl, impossible⟩
    exact counts impossible

/-- Reading one lexeme keeps the scan in step with the lexemes. -/
theorem tracks_read (lexeme : Lexeme) (behind : List Char) (wellFormed : lexeme.WellFormed)
    (lexed : Lexed behind ahead) (tracks : Tracks before (lexeme :: ahead) scan)
    (read : scan.read lexeme behind = .ok next) : Tracks (before ++ [lexeme]) ahead next := by
  have cleared : ∀ other : Lexeme, other.isSignificant = true → other ≠ .other '.' →
      (false = true ↔ EndsInStop (before ++ [other])) := by
    intro other significant different
    exact iff_of_false Bool.false_ne_true (not_ends_in_stop_append other significant different)
  have kept : ∀ other : Lexeme, other.isSignificant = false →
      (scan.afterDot = true ↔ EndsInStop before) →
      (scan.afterDot = true ↔ EndsInStop (before ++ [other])) := by
    intro other insignificant mark
    rw [ends_in_stop_append, insignificant]
    exact mark
  cases lexeme with
  | lineFeed =>
    cases read
    exact tracks_of_mark _ tracks (fun _ => Lexeme.noConfusion) rfl rfl rfl
      (kept _ rfl tracks.afterDot)
  | comment body =>
    cases read
    exact tracks_of_mark _ tracks (fun _ => Lexeme.noConfusion) rfl rfl rfl
      (kept _ rfl tracks.afterDot)
  | string quote body =>
    cases read
    exact tracks_of_mark _ tracks (fun _ => Lexeme.noConfusion) rfl rfl rfl
      (cleared _ rfl Lexeme.noConfusion)
  | number digits =>
    cases read
    exact tracks_of_mark _ tracks (fun _ => Lexeme.noConfusion) rfl rfl rfl
      (cleared _ rfl Lexeme.noConfusion)
  | opening bracket =>
    cases read
    refine ⟨cleared _ rfl Lexeme.noConfusion, ?_,
      uses_before_of_not_word _ tracks (fun _ => Lexeme.noConfusion) rfl⟩
    rw [brackets_append]
    exact leaves_open _ _ bracket wellFormed tracks.opened
  | closing bracket =>
    obtain ⟨expected, closes⟩ := Option.isSome_iff_exists.1 wellFormed
    rw [Scan.read, closes] at read
    obtain ⟨line, outer, opened, rfl⟩ := (close_bracket_eq_ok_iff expected bracket).1 read
    refine ⟨cleared _ rfl Lexeme.noConfusion, ?_,
      uses_before_of_not_word _ tracks (fun _ => Lexeme.noConfusion) rfl⟩
    have leaves := tracks.opened
    rw [opened] at leaves
    rw [brackets_append]
    exact leaves_close _ _ expected bracket closes leaves
  | word letters =>
    cases read
    refine ⟨cleared _ rfl Lexeme.noConfusion, ?_,
      mem_read_word_iff letters behind lexed tracks⟩
    rw [brackets_append]
    exact (List.append_nil _).symm ▸ tracks.opened
  | other char =>
    cases read
    cases blank : isWhiteSpace char with
    | true =>
      exact tracks_of_mark _ tracks (fun _ => Lexeme.noConfusion) rfl rfl rfl
        (kept _ (by rw [Lexeme.isSignificant, blank]; rfl) tracks.afterDot)
    | false =>
      have mark : (char == '.') = true ↔ EndsInStop (before ++ [.other char]) := by
        rw [ends_in_stop_append, Lexeme.isSignificant, blank]
        simp
      exact tracks_of_mark _ tracks (fun _ => Lexeme.noConfusion) rfl rfl rfl mark

theorem tracks_initial (lexemes : List Lexeme) : Tracks [] lexemes Scan.initial := by
  refine ⟨?_, .closed .nil, ?_⟩
  · exact iff_of_false Bool.false_ne_true fun impossible => nomatch impossible
  · intro name
    apply iff_of_false (NameSet.not_mem_empty name)
    rintro ⟨earlier, between, split, _⟩
    exact absurd split.symm (List.append_ne_nil_of_right_ne_nil earlier (List.cons_ne_nil _ _))

theorem mem_names_of_run (text : List Char) (lexemes : List Lexeme) (lexed : Lexed text lexemes)
    (names : NameSet) (tracks : Tracks before lexemes scan)
    (scanned : scan.run .code text = .ok names) (name : String) :
    name ∈ names ↔ Uses (before ++ lexemes) name := by
  induction lexed generalizing before scan with
  | nil =>
    have ended : names = scan.symbols := by
      rw [scan.run_nothing] at scanned
      unfold Scan.close at scanned
      split at scanned
      · exact (Except.ok.inj scanned).symm
      · cases scanned
    rw [ended, tracks.symbols]
    simp [UsesBefore, Uses]
  | cons lexeme wellFormed longest lexed induction =>
    obtain ⟨next, read, scannedBehind⟩ :=
      scan.exists_read_of_run lexeme _ names wellFormed longest scanned
    have rest := induction (tracks_read lexeme _ wellFormed lexed tracks read) scannedBehind
    rw [List.append_assoc] at rest
    exact rest

end Before

/-- A fragment in which the scan finds no fault is divided into lexemes in one way, and the names
that the scan finds are those that the lexemes use. -/
theorem symbols_of_lexemes (code : String) (names : NameSet) (scanned : symbols code = .ok names) :
    ∃ lexemes, Lexed code.toList lexemes ∧
      (∀ others, Lexed code.toList others → others = lexemes) ∧
        ∀ name, name ∈ names ↔ Uses lexemes name := by
  obtain ⟨lexemes, lexed⟩ := exists_lexed_of_run Scan.initial code.toList names scanned
  refine ⟨lexemes, lexed, ?_, ?_⟩
  · intro others otherLexed
    exact lexed_unique code.toList others lexemes otherLexed lexed
  · exact mem_names_of_run code.toList lexemes lexed names (tracks_initial lexemes) scanned

/-- A call with an argument name, an attribute behind a comment, an equals sign in other brackets,
a number with an exponent and a string with an escaped quote. -/
theorem symbols_of_lexemes_of_call :
    let code := "y = f(x, k = a. # s\n b, [z = 1e-3], q == w) + 'u\\'v'"
    let names := NameSet.ofList ["a", "f", "q", "w", "x", "y", "z"]
    symbols code = .ok names ∧
      ∃ lexemes, Lexed code.toList lexemes ∧
        (∀ others, Lexed code.toList others → others = lexemes) ∧
          ∀ name, name ∈ names ↔ Uses lexemes name := by
  have scanned : symbols "y = f(x, k = a. # s\n b, [z = 1e-3], q == w) + 'u\\'v'" =
      .ok (NameSet.ofList ["a", "f", "q", "w", "x", "y", "z"]) := by
    decide +kernel
  exact ⟨scanned, symbols_of_lexemes _ _ scanned⟩

end PairLoop.Fragment
