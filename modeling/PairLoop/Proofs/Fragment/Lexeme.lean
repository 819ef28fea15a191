import Mathlib.Data.List.Chain
import Mathlib.Data.Nat.Find
import PairLoop.Fragment.Symbols

/-!
The lexemes of a fragment. A fragment is divided from left to right, each time by the longest
lexeme with which the rest begins. Its first code point tells the kind of a lexeme, so at most one
division of a text exists. It fails to exist only where a quote begins no string.
-/

namespace PairLoop.Fragment

open PairLoop.Unicode

/-- What a code point of the code begins. -/
inductive Beginning
  | lineFeed
  | comment
  | string
  | opening
  | closing (expected : Char)
  | number
  | word
  | blank
  | sign
deriving DecidableEq

def beginning (char : Char) : Beginning :=
  if char = '\n' then .lineFeed
  else if char = '#' then .comment
  else if isQuote char then .string
  else if isOpening char then .opening
  else match opening? char with
    | some expected => .closing expected
    | none =>
      if char.isDigit then .number
      else if startsWord char then .word
      else if isWhiteSpace char then .blank
      else .sign

section Beginnings

variable (char : Char)

theorem beginning_of_quote (quotes : isQuote char = true) : beginning char = .string := by
  rw [isQuote, Bool.or_eq_true, beq_iff_eq, beq_iff_eq] at quotes
  rcases quotes with rfl | rfl <;> rfl

theorem quotes_of_beginning (begins : beginning char = .string) : isQuote char = true := by
  by_contra noQuote
  unfold beginning at begins
  rw [if_neg noQuote] at begins
  repeat' split at begins
  all_goals cases begins

theorem beginning_of_opening (opens : isOpening char = true) : beginning char = .opening := by
  rw [isOpening, Bool.or_eq_true, Bool.or_eq_true, beq_iff_eq, beq_iff_eq, beq_iff_eq] at opens
  rcases opens with (rfl | rfl) | rfl <;> rfl

theorem beginning_of_closing (expected : Char) (closes : opening? char = some expected) :
    beginning char = .closing expected := by
  unfold opening? at closes
  split at closes
  · cases closes
    rfl
  · cases closes
    rfl
  · cases closes
    rfl
  · cases closes

theorem continues_of_starts (starts : startsWord char = true) : continuesWord char = true := by
  rw [startsWord, Bool.or_eq_true] at starts
  rw [continuesWord, isAlphanumeric, Bool.or_eq_true, Bool.or_eq_true]
  rcases starts with letter | underscore
  · exact .inl (.inl letter)
  · exact .inr underscore

theorem is_ascii_of_digit (digit : char.isDigit = true) : isAscii char = true := by
  have last : char.val ≤ 57 := of_decide_eq_true (Bool.and_eq_true_iff.1 digit).2
  exact decide_eq_true (Nat.lt_of_le_of_lt (UInt32.le_iff_toNat_le.1 last) (by decide))

theorem continues_of_digit (digit : char.isDigit = true) : continuesWord char = true := by
  have numeric : isNumeric char = true := by
    rw [isNumeric, extend_ascii_of_ascii _ _ _ (is_ascii_of_digit char digit)]
    exact digit
  rw [continuesWord, isAlphanumeric, numeric, Bool.or_true, Bool.true_or]

theorem not_starts_of_digit (digit : char.isDigit = true) : startsWord char = false := by
  have last : char.val ≤ 57 := of_decide_eq_true (Bool.and_eq_true_iff.1 digit).2
  have below := UInt32.le_iff_toNat_le.1 last
  have noLetter : char.isAlpha = false := by
    apply Bool.eq_false_iff.2
    intro letter
    rcases Bool.or_eq_true_iff.1 letter with upper | lower
    · have above := UInt32.le_iff_toNat_le.1 (of_decide_eq_true upper).1
      exact absurd (Nat.le_trans above below) (by decide)
    · have first : 97 ≤ char.val := of_decide_eq_true (Bool.and_eq_true_iff.1 lower).1
      exact absurd (Nat.le_trans (UInt32.le_iff_toNat_le.1 first) below) (by decide)
  have noUnderscore : (char == '_') = false := by
    apply beq_eq_false_iff_ne.2
    rintro rfl
    exact absurd digit (by decide)
  rw [startsWord, isAlphabetic, extend_ascii_of_ascii _ _ _ (is_ascii_of_digit char digit),
    noLetter, noUnderscore, Bool.or_false]

/-- What can continue a word begins a number, a word or nothing. -/
theorem beginning_of_continues (continues : continuesWord char = true) :
    beginning char =
      if char.isDigit then .number
      else if startsWord char then .word
      else if isWhiteSpace char then .blank
      else .sign := by
  have different : ∀ other, continuesWord other = false → char ≠ other := by
    intro other breaks same
    rw [same, breaks] at continues
    exact Bool.noConfusion continues
  have noQuote : isQuote char = false := by
    simp [isQuote, different '"' (by decide), different '\x27' (by decide)]
  have noOpening : isOpening char = false := by
    simp [isOpening, different '(' (by decide), different '[' (by decide),
      different '{' (by decide)]
  have noClosing : opening? char = none := by
    unfold opening?
    split
    · exact absurd rfl (different ')' (by decide))
    · exact absurd rfl (different ']' (by decide))
    · exact absurd rfl (different '}' (by decide))
    · rfl
  unfold beginning
  rw [if_neg (different '\n' (by decide)), if_neg (different '#' (by decide)), noQuote, noOpening,
    noClosing]
  rfl

end Beginnings

/-- The text between the quotes of a string: a backslash goes with the code point behind it, and
apart from that neither the quote nor a line feed comes. -/
inductive StringBody (quote : Char) : List Char → Prop
  | nil : StringBody quote []
  | plain {char : Char} {body : List Char} (noQuote : char ≠ quote) (noEscape : char ≠ '\\')
      (sameLine : char ≠ '\n') (behind : StringBody quote body) : StringBody quote (char :: body)
  | escaped (char : Char) {body : List Char} (behind : StringBody quote body) :
      StringBody quote ('\\' :: char :: body)

/-- Behind its opening quote a string literal is closed by the same quote. Neither the quote nor a
line feed comes in between, unless a backslash stands before it and takes it. -/
def ClosesString (quote : Char) (behind : List Char) : Prop :=
  ∃ body rest, behind = body ++ quote :: rest ∧ StringBody quote body

/-- Whether a number goes on from one code point to the next. -/
def NumberContinues (previous next : Char) : Prop :=
  isAlphanumeric next = true ∨ next = '.' ∨ next = '_' ∨
    (next = '+' ∨ next = '-') ∧ (previous = 'e' ∨ previous = 'E')

theorem number_continues_iff (previous next : Char) :
    NumberContinues previous next ↔ continuesNumber previous next = true := by
  simp [NumberContinues, continuesNumber, or_assoc]

inductive Lexeme
  | lineFeed
  /-- A number sign and what follows it on its line. -/
  | comment (body : List Char)
  | string (quote : Char) (body : List Char)
  | opening (bracket : Char)
  | closing (bracket : Char)
  | number (digits : List Char)
  | word (letters : List Char)
  /-- A code point by itself that begins none of the others. -/
  | other (char : Char)
deriving DecidableEq

namespace Lexeme

def text : Lexeme → List Char
  | lineFeed => ['\n']
  | comment body => '#' :: body
  | string quote body => quote :: (body ++ [quote])
  | opening bracket => [bracket]
  | closing bracket => [bracket]
  | number digits => digits
  | word letters => letters
  | other char => [char]

def WellFormed : Lexeme → Prop
  | lineFeed => True
  | comment body => '\n' ∉ body
  | string quote body => isQuote quote = true ∧ StringBody quote body
  | opening bracket => isOpening bracket = true
  | closing bracket => (opening? bracket).isSome = true
  | number digits =>
    (∃ first ∈ digits.head?, first.isDigit = true) ∧ digits.IsChain NumberContinues
  | word letters =>
    (∃ first ∈ letters.head?, startsWord first = true) ∧
      ∀ char ∈ letters, continuesWord char = true
  | other char =>
    char ≠ '\n' ∧ char ≠ '#' ∧ isQuote char = false ∧ isOpening char = false ∧
      opening? char = none ∧ char.isDigit = false ∧ startsWord char = false

/-- No lexeme that begins the text of this one and what follows it is longer. -/
def Longest (lexeme : Lexeme) (behind : List Char) : Prop :=
  ∀ other : Lexeme, other.WellFormed → other.text <+: lexeme.text ++ behind →
    other.text.length ≤ lexeme.text.length

/-- The lexeme of a text, by its first code point. -/
def ofText : List Char → Lexeme
  | [] => lineFeed
  | char :: rest =>
    match beginning char with
    | .lineFeed => lineFeed
    | .comment => comment rest
    | .string => string char rest.dropLast
    | .opening => opening char
    | .closing _ => closing char
    | .number => number (char :: rest)
    | .word => word (char :: rest)
    | .blank => other char
    | .sign => other char

theorem exists_of_number (digits : List Char) (wellFormed : (number digits).WellFormed) :
    ∃ first rest, digits = first :: rest ∧ first.isDigit = true := by
  rcases wellFormed with ⟨⟨first, heads, digit⟩, _⟩
  obtain ⟨rest, split⟩ := List.head?_eq_some_iff.1 heads
  exact ⟨first, rest, split, digit⟩

theorem exists_of_word (letters : List Char) (wellFormed : (word letters).WellFormed) :
    ∃ first rest, letters = first :: rest ∧ startsWord first = true := by
  rcases wellFormed with ⟨⟨first, heads, starts⟩, _⟩
  obtain ⟨rest, split⟩ := List.head?_eq_some_iff.1 heads
  exact ⟨first, rest, split, starts⟩

theorem beginning_of_number (first : Char) (digit : first.isDigit = true) :
    beginning first = .number := by
  rw [beginning_of_continues first (continues_of_digit first digit), if_pos digit]

theorem beginning_of_word (first : Char) (starts : startsWord first = true) :
    beginning first = .word := by
  have noDigit : first.isDigit = false := by
    apply Bool.eq_false_iff.2
    intro digit
    rw [not_starts_of_digit first digit] at starts
    exact Bool.noConfusion starts
  rw [beginning_of_continues first (continues_of_starts first starts), noDigit, if_pos starts]
  rfl

theorem beginning_of_other (char : Char) (wellFormed : (other char).WellFormed) :
    beginning char = if isWhiteSpace char then .blank else .sign := by
  rcases wellFormed with ⟨noLineFeed, noComment, noQuote, noOpening, noClosing, noDigit, noWord⟩
  unfold beginning
  rw [if_neg noLineFeed, if_neg noComment, noQuote, noOpening, noClosing, noDigit, noWord]
  rfl

theorem of_text_text (lexeme : Lexeme) (wellFormed : lexeme.WellFormed) :
    ofText lexeme.text = lexeme := by
  cases lexeme with
  | lineFeed => rfl
  | comment body => rfl
  | string quote body => simp [text, ofText, beginning_of_quote quote wellFormed.1]
  | opening bracket => simp [text, ofText, beginning_of_opening bracket wellFormed]
  | closing bracket =>
    obtain ⟨expected, closes⟩ := Option.isSome_iff_exists.1 wellFormed
    simp [text, ofText, beginning_of_closing bracket expected closes]
  | number digits =>
    obtain ⟨first, rest, rfl, digit⟩ := exists_of_number digits wellFormed
    simp [text, ofText, beginning_of_number first digit]
  | word letters =>
    obtain ⟨first, rest, rfl, starts⟩ := exists_of_word letters wellFormed
    simp [text, ofText, beginning_of_word first starts]
  | other char =>
    rw [text, ofText, beginning_of_other char wellFormed]
    by_cases blank : isWhiteSpace char = true
    · rw [if_pos blank]
    · rw [if_neg blank]

theorem eq_of_text_eq (first second : Lexeme) (firstFormed : first.WellFormed)
    (secondFormed : second.WellFormed) (same : first.text = second.text) : first = second := by
  rw [← of_text_text first firstFormed, same, of_text_text second secondFormed]

theorem text_ne_nil (lexeme : Lexeme) (wellFormed : lexeme.WellFormed) : lexeme.text ≠ [] := by
  cases lexeme with
  | number digits =>
    obtain ⟨first, rest, rfl, _⟩ := exists_of_number digits wellFormed
    exact List.cons_ne_nil _ _
  | word letters =>
    obtain ⟨first, rest, rfl, _⟩ := exists_of_word letters wellFormed
    exact List.cons_ne_nil _ _
  | _ => exact List.cons_ne_nil _ _

/-- Every code point begins a lexeme, a quote if it is closed. -/
theorem exists_well_formed (char : Char) (rest : List Char)
    (closed : isQuote char = true → ClosesString char rest) :
    ∃ lexeme : Lexeme, lexeme.WellFormed ∧ lexeme.text <+: char :: rest := by
  have alone : [char] <+: char :: rest := ⟨rest, rfl⟩
  by_cases lineEnds : char = '\n'
  · exact ⟨lineFeed, trivial, lineEnds ▸ alone⟩
  by_cases comments : char = '#'
  · exact ⟨comment [], List.not_mem_nil, comments ▸ alone⟩
  cases quotes : isQuote char with
  | true =>
    obtain ⟨body, behind, split, isBody⟩ := closed quotes
    exact ⟨string char body, ⟨quotes, isBody⟩, behind, by simp [text, split]⟩
  | false =>
    cases opens : isOpening char with
    | true => exact ⟨opening char, opens, alone⟩
    | false =>
      cases closes : opening? char with
      | some expected => exact ⟨closing char, by rw [WellFormed, closes]; rfl, alone⟩
      | none =>
        cases digit : char.isDigit with
        | true =>
          exact ⟨number [char], ⟨⟨char, rfl, digit⟩, List.isChain_singleton char⟩, alone⟩
        | false =>
          cases starts : startsWord char with
          | true =>
            refine ⟨word [char], ⟨⟨char, rfl, starts⟩, ?_⟩, alone⟩
            intro other member
            rw [List.mem_singleton.1 member, continues_of_starts char starts]
          | false =>
            exact ⟨other char, ⟨lineEnds, comments, quotes, opens, closes, digit, starts⟩, alone⟩

/-- A text that begins with a lexeme begins with a longest one. -/
theorem exists_longest (text : List Char) (lexeme : Lexeme) (wellFormed : lexeme.WellFormed)
    (begins : lexeme.text <+: text) :
    ∃ longest : Lexeme, ∃ behind, longest.WellFormed ∧ text = longest.text ++ behind ∧
      longest.Longest behind := by
  classical
  let Begun (length : Nat) : Prop :=
    ∃ other : Lexeme, other.WellFormed ∧ other.text <+: text ∧ other.text.length = length
  have found : Begun (Nat.findGreatest Begun text.length) :=
    Nat.findGreatest_spec begins.length_le ⟨lexeme, wellFormed, begins, rfl⟩
  rcases found with ⟨longest, formed, ⟨behind, split⟩, length⟩
  refine ⟨longest, behind, formed, split.symm, ?_⟩
  intro other otherFormed otherBegins
  rw [split] at otherBegins
  rw [length]
  exact Nat.le_findGreatest otherBegins.length_le ⟨other, otherFormed, otherBegins, rfl⟩

/-- Longest lexemes at the beginning of one text are the same. -/
theorem eq_of_longest (first second : Lexeme) (firstBehind secondBehind : List Char)
    (firstFormed : first.WellFormed) (secondFormed : second.WellFormed)
    (firstLongest : first.Longest firstBehind) (secondLongest : second.Longest secondBehind)
    (same : first.text ++ firstBehind = second.text ++ secondBehind) :
    first = second ∧ firstBehind = secondBehind := by
  have notLonger := secondLongest first firstFormed ⟨firstBehind, same⟩
  have notShorter := firstLongest second secondFormed ⟨secondBehind, same.symm⟩
  have parts := List.append_inj same (Nat.le_antisymm notLonger notShorter)
  exact ⟨eq_of_text_eq first second firstFormed secondFormed parts.1, parts.2⟩

end Lexeme

/-- A text is divided into lexemes, from left to right and each time by the longest one. -/
inductive Lexed : List Char → List Lexeme → Prop
  | nil : Lexed [] []
  | cons {behind : List Char} {rest : List Lexeme} (lexeme : Lexeme)
      (wellFormed : lexeme.WellFormed) (longest : lexeme.Longest behind)
      (lexed : Lexed behind rest) : Lexed (lexeme.text ++ behind) (lexeme :: rest)

/-- A text is divided in one way only. -/
theorem lexed_unique (text : List Char) (first second : List Lexeme)
    (firstLexed : Lexed text first) (secondLexed : Lexed text second) : first = second := by
  induction firstLexed generalizing second with
  | nil =>
    generalize whole : [] = text at secondLexed
    cases secondLexed with
    | nil => rfl
    | cons lexeme wellFormed longest lexed =>
      exact absurd (List.append_eq_nil_iff.1 whole.symm).1 (lexeme.text_ne_nil wellFormed)
  | cons lexeme wellFormed longest lexed induction =>
    generalize whole : lexeme.text ++ _ = text at secondLexed
    cases secondLexed with
    | nil => exact absurd (List.append_eq_nil_iff.1 whole).1 (lexeme.text_ne_nil wellFormed)
    | cons other otherFormed otherLongest otherLexed =>
      obtain ⟨rfl, rfl⟩ := lexeme.eq_of_longest other _ _ wellFormed otherFormed longest
        otherLongest whole
      rw [induction _ otherLexed]

end PairLoop.Fragment
