import PairLoop.Proofs.Fragment.Reading

/-!
Numeric literals and what stands behind them. The scan reads a number on over letters and digits,
full stops and underscores, and over a sign behind the letter of an exponent. At the end of a
decimal literal it leaves off. The last digit of a hexadecimal literal can be that letter, and then
a sign behind it, with the word that follows, is taken for a part of the number.
-/

namespace PairLoop.Fragment

open PairLoop.Unicode

/-- Digits of some kind. An underscore may stand between any two of them. -/
inductive Digits (isDigit : Char → Bool) : List Char → Prop
  | single (digit : Char) (valid : isDigit digit = true) : Digits isDigit [digit]
  | cons (digit : Char) {digits : List Char} (valid : isDigit digit = true)
      (behind : Digits isDigit digits) : Digits isDigit (digit :: digits)
  | divided (digit : Char) {digits : List Char} (valid : isDigit digit = true)
      (behind : Digits isDigit digits) : Digits isDigit (digit :: '_' :: digits)

def isHexDigit (char : Char) : Bool := "0123456789abcdefABCDEF".toList.contains char

/-- Decimal digits, with or without a fraction. Only one side of the full stop may be empty. -/
inductive Mantissa : List Char → Prop
  | whole {digits : List Char} (isWhole : Digits Char.isDigit digits) : Mantissa digits
  | stopped {digits : List Char} (isWhole : Digits Char.isDigit digits) : Mantissa (digits ++ ['.'])
  | fractional {digits fraction : List Char} (isWhole : Digits Char.isDigit digits)
      (isFraction : Digits Char.isDigit fraction) : Mantissa (digits ++ '.' :: fraction)
  | leading {fraction : List Char} (isFraction : Digits Char.isDigit fraction) :
      Mantissa ('.' :: fraction)

def isExponentLetter (char : Char) : Bool := char == 'e' || char == 'E'

def isSign (char : Char) : Bool := char == '+' || char == '-'

/-- The letter of an exponent, a sign or none, and at least one digit. -/
inductive Exponent : List Char → Prop
  | plain (letter : Char) {digits : List Char} (isLetter : isExponentLetter letter = true)
      (isExponent : Digits Char.isDigit digits) : Exponent (letter :: digits)
  | signed (letter sign : Char) {digits : List Char} (isLetter : isExponentLetter letter = true)
      (signs : isSign sign = true) (isExponent : Digits Char.isDigit digits) :
      Exponent (letter :: sign :: digits)

inductive Hexadecimal : List Char → Prop
  | prefixed (letter : Char) {digits : List Char} (isLetter : letter = 'x' ∨ letter = 'X')
      (isHex : Digits isHexDigit digits) : Hexadecimal ('0' :: letter :: digits)

/-- The numeric literals: decimal ones with or without a fraction and an exponent, and
hexadecimal integers. -/
inductive Literal : List Char → Prop
  | decimal {text : List Char} (mantissa : Mantissa text) : Literal text
  | scaled {first second : List Char} (mantissa : Mantissa first) (exponent : Exponent second) :
      Literal (first ++ second)
  | hexadecimal {text : List Char} (isHex : Hexadecimal text) : Literal text

section Chains

/-- A number goes on to a code point from every other one. -/
def Follows (char : Char) : Prop := ∀ previous, NumberContinues previous char

theorem follows_of_continues_word (char : Char) (continues : continuesWord char = true) :
    Follows char := by
  intro previous
  rw [continuesWord, Bool.or_eq_true, beq_iff_eq] at continues
  rcases continues with alphanumeric | underscore
  · exact .inl alphanumeric
  · exact .inr (.inr (.inl underscore))

theorem follows_stop : Follows '.' := fun _ => .inr (.inl rfl)

theorem chain_of_follows (text : List Char) (follows : ∀ char ∈ text, Follows char) :
    text.IsChain NumberContinues := by
  apply List.Pairwise.isChain
  apply List.pairwise_of_forall_mem_list
  intro previous _ char member
  exact follows char member previous

theorem number_append (first rest : List Char) (char : Char)
    (wellFormed : (Lexeme.number first).WellFormed) (chain : (char :: rest).IsChain NumberContinues)
    (joined : ∀ last ∈ first.getLast?, NumberContinues last char) :
    (Lexeme.number (first ++ char :: rest)).WellFormed := by
  obtain ⟨⟨head, heads, digit⟩, firstChain⟩ := wellFormed
  refine ⟨⟨head, by rw [List.head?_append, heads]; rfl, digit⟩, ?_⟩
  apply List.isChain_append.2
  refine ⟨firstChain, chain, ?_⟩
  intro last ends next begins
  rw [← Option.some.inj begins]
  exact joined last ends

end Chains

section Shapes

variable {isDigit : Char → Bool} {text : List Char}

theorem continues_of_mem_digits (valid : ∀ char, isDigit char = true → continuesWord char = true)
    (digits : Digits isDigit text) : ∀ char ∈ text, continuesWord char = true := by
  induction digits with
  | single digit isDigit =>
    intro char member
    rw [List.mem_singleton.1 member, valid digit isDigit]
  | cons digit isDigit _ induction =>
    intro char member
    rcases List.mem_cons.1 member with rfl | later
    · exact valid char isDigit
    · exact induction char later
  | divided digit isDigit _ induction =>
    intro char member
    rcases List.mem_cons.1 member with rfl | later
    · exact valid char isDigit
    rcases List.mem_cons.1 later with rfl | later
    · rfl
    · exact induction char later

theorem exists_first_digit (digits : Digits isDigit text) :
    ∃ first ∈ text.head?, isDigit first = true := by
  cases digits with
  | single digit valid => exact ⟨digit, rfl, valid⟩
  | cons digit valid => exact ⟨digit, rfl, valid⟩
  | divided digit valid => exact ⟨digit, rfl, valid⟩

theorem exists_last_digit (digits : Digits isDigit text) :
    ∃ last ∈ text.getLast?, isDigit last = true := by
  induction digits with
  | single digit valid => exact ⟨digit, rfl, valid⟩
  | @cons digit digits valid _ induction =>
    obtain ⟨last, ends, lastValid⟩ := induction
    exact ⟨last, by rw [List.getLast?_cons, ends]; rfl, lastValid⟩
  | @divided digit digits valid _ induction =>
    obtain ⟨last, ends, lastValid⟩ := induction
    exact ⟨last, by rw [List.getLast?_cons_cons, List.getLast?_cons, ends]; rfl, lastValid⟩

end Shapes

section Ends

theorem exponent_letter_iff (char : Char) :
    isExponentLetter char = true ↔ char = 'e' ∨ char = 'E' := by
  rw [isExponentLetter, Bool.or_eq_true, beq_iff_eq, beq_iff_eq]

theorem sign_iff (char : Char) : isSign char = true ↔ char = '+' ∨ char = '-' := by
  rw [isSign, Bool.or_eq_true, beq_iff_eq, beq_iff_eq]

/-- A text does not end with the letter of an exponent. -/
def Finished (text : List Char) : Prop := ∀ last ∈ text.getLast?, isExponentLetter last = false

theorem finished_append (first second : List Char) (present : second ≠ [])
    (finished : Finished second) : Finished (first ++ second) := by
  intro last ends
  rw [List.getLast?_append_of_ne_nil first present] at ends
  exact finished last ends

theorem finished_of_digits (text : List Char) (digits : Digits Char.isDigit text) :
    Finished text := by
  intro last ends
  obtain ⟨digit, digitEnds, valid⟩ := exists_last_digit digits
  rw [Option.mem_unique ends digitEnds]
  apply Bool.eq_false_iff.2
  intro letter
  rcases (exponent_letter_iff digit).1 letter with rfl | rfl
  · exact absurd valid (by decide)
  · exact absurd valid (by decide)

theorem number_of_digits (text : List Char) (digits : Digits Char.isDigit text) :
    (Lexeme.number text).WellFormed := by
  refine ⟨exists_first_digit digits, chain_of_follows text ?_⟩
  intro char member
  apply follows_of_continues_word
  exact continues_of_mem_digits continues_of_digit digits char member

theorem chain_cons_digits (char : Char) (text : List Char) (digits : Digits Char.isDigit text) :
    (char :: text).IsChain NumberContinues := by
  apply List.isChain_cons.2
  refine ⟨?_, (number_of_digits text digits).2⟩
  intro first begins
  have member := List.mem_of_mem_head? begins
  exact follows_of_continues_word first
    (continues_of_mem_digits continues_of_digit digits first member) char

theorem finished_append_digits (front text : List Char) (digits : Digits Char.isDigit text) :
    Finished (front ++ text) := by
  refine finished_append front text ?_ (finished_of_digits text digits)
  rintro rfl
  cases digits

end Ends

section Parts

/-- A mantissa is a number, or one behind a full stop. -/
theorem exists_number_of_mantissa (text : List Char) (mantissa : Mantissa text) :
    ∃ lead digits, text = lead ++ digits ∧ (lead = [] ∨ lead = ['.']) ∧
      (Lexeme.number digits).WellFormed ∧ Finished digits := by
  cases mantissa with
  | whole isWhole =>
    exact ⟨[], text, rfl, .inl rfl, number_of_digits text isWhole, finished_of_digits text isWhole⟩
  | @stopped digits isWhole =>
    refine ⟨[], digits ++ ['.'], rfl, .inl rfl, ?_, ?_⟩
    · exact number_append digits [] '.' (number_of_digits digits isWhole)
        (List.isChain_singleton '.') fun last _ => follows_stop last
    · apply finished_append digits ['.'] (List.cons_ne_nil _ _)
      intro last ends
      rw [← Option.some.inj ends]
      rfl
  | @fractional digits fraction isWhole isFraction =>
    refine ⟨[], digits ++ '.' :: fraction, rfl, .inl rfl, ?_, ?_⟩
    · exact number_append digits fraction '.' (number_of_digits digits isWhole)
        (chain_cons_digits '.' fraction isFraction) fun last _ => follows_stop last
    · rw [List.append_cons]
      exact finished_append_digits (digits ++ ['.']) fraction isFraction
  | @leading fraction isFraction =>
    exact ⟨['.'], fraction, rfl, .inr rfl, number_of_digits fraction isFraction,
      finished_of_digits fraction isFraction⟩

theorem follows_of_exponent_letter (letter : Char) (isLetter : isExponentLetter letter = true) :
    Follows letter := by
  apply follows_of_continues_word
  rcases (exponent_letter_iff letter).1 isLetter with rfl | rfl
  · decide
  · decide

theorem exists_chain_of_exponent (text : List Char) (exponent : Exponent text) :
    ∃ letter rest, text = letter :: rest ∧ Follows letter ∧
      (letter :: rest).IsChain NumberContinues ∧ Finished (letter :: rest) := by
  cases exponent with
  | @plain letter digits isLetter isExponent =>
    exact ⟨letter, digits, rfl, follows_of_exponent_letter letter isLetter,
      chain_cons_digits letter digits isExponent, finished_append_digits [letter] digits isExponent⟩
  | @signed letter sign digits isLetter signs isExponent =>
    have joined : NumberContinues letter sign :=
      .inr (.inr (.inr ⟨(sign_iff sign).1 signs, (exponent_letter_iff letter).1 isLetter⟩))
    exact ⟨letter, sign :: digits, rfl, follows_of_exponent_letter letter isLetter,
      List.isChain_cons_cons.2 ⟨joined, chain_cons_digits sign digits isExponent⟩,
      finished_append_digits [letter, sign] digits isExponent⟩

theorem continues_of_hex_digit (char : Char) (valid : isHexDigit char = true) :
    continuesWord char = true := by
  have all : "0123456789abcdefABCDEF".toList.all continuesWord = true := by decide
  exact List.all_eq_true.1 all char (List.contains_iff_mem.1 valid)

theorem number_of_hexadecimal (text : List Char) (isHex : Hexadecimal text) :
    (Lexeme.number text).WellFormed := by
  cases isHex with
  | @prefixed letter digits isLetter isHex =>
    have letterContinues : continuesWord letter = true := by
      rcases isLetter with rfl | rfl
      · decide
      · decide
    refine ⟨⟨'0', rfl, rfl⟩, chain_of_follows _ ?_⟩
    intro char member
    apply follows_of_continues_word
    rcases List.mem_cons.1 member with rfl | later
    · decide
    rcases List.mem_cons.1 later with rfl | later
    · exact letterContinues
    · exact continues_of_mem_digits continues_of_hex_digit isHex char later

/-- A literal is a number, or one behind a full stop, and only a hexadecimal one can end with the
letter of an exponent. -/
theorem exists_number_of_literal (text : List Char) (isLiteral : Literal text) :
    ∃ lead digits, text = lead ++ digits ∧ (lead = [] ∨ lead = ['.']) ∧
      (Lexeme.number digits).WellFormed ∧ (Finished digits ∨ Hexadecimal text) := by
  cases isLiteral with
  | decimal mantissa =>
    obtain ⟨lead, digits, split, stop, isNumber, finished⟩ :=
      exists_number_of_mantissa text mantissa
    exact ⟨lead, digits, split, stop, isNumber, .inl finished⟩
  | scaled mantissa exponent =>
    obtain ⟨lead, digits, rfl, stop, isNumber, _⟩ := exists_number_of_mantissa _ mantissa
    obtain ⟨letter, rest, rfl, follows, chain, finished⟩ := exists_chain_of_exponent _ exponent
    refine ⟨lead, digits ++ letter :: rest, List.append_assoc .., stop, ?_, .inl ?_⟩
    · exact number_append digits rest letter isNumber chain fun last _ => follows last
    · exact finished_append digits _ (List.cons_ne_nil _ _) finished
  | hexadecimal isHex =>
    exact ⟨[], text, rfl, .inl rfl, number_of_hexadecimal text isHex, .inr isHex⟩

end Parts

section Scanned

variable (literal : List Char) (operator : Char) (name : String)

/-- Behind the last digit of a hexadecimal literal, which reads as the letter of an exponent, the
operator reads as its sign. -/
structure SwallowsOperator : Prop where
  isHex : Hexadecimal literal
  endsInLetter : ∃ last ∈ literal.getLast?, isExponentLetter last = true
  signs : isSign operator = true

theorem continues_operator_iff (last : Char) (isOperator : operator ∈ ['+', '-', '*', '/']) :
    NumberContinues last operator ↔ isSign operator = true ∧ isExponentLetter last = true := by
  have single : isAlphanumeric operator = false ∧ operator ≠ '.' ∧ operator ≠ '_' := by
    simp only [List.mem_cons, List.not_mem_nil, or_false] at isOperator
    rcases isOperator with rfl | rfl | rfl | rfl
    all_goals decide
  rw [NumberContinues, single.1, sign_iff, exponent_letter_iff]
  simp only [Bool.false_eq_true, single.2.1, single.2.2, false_or]

theorem run_operator (behind : List Char) (isOperator : operator ∈ ['+', '-', '*', '/']) :
    Scan.initial.run .code (operator :: behind) = Scan.initial.run .code behind := by
  have passed : Scan.initial.start operator = .ok (Scan.initial, .code) := by
    simp only [List.mem_cons, List.not_mem_nil, or_false] at isOperator
    rcases isOperator with rfl | rfl | rfl | rfl
    all_goals rfl
  rw [Scan.run_cons, Scan.step, passed]

/-- The scan leaves off at the end of a literal unless the operator reads as a sign. -/
theorem run_literal (behind : List Char) (isLiteral : Literal literal)
    (isOperator : operator ∈ ['+', '-', '*', '/']) (ends : ¬ SwallowsOperator literal operator) :
    Scan.initial.run .code (literal ++ operator :: behind) =
      Scan.initial.run .code (operator :: behind) := by
  obtain ⟨lead, digits, rfl, stop, isNumber, finished⟩ := exists_number_of_literal literal isLiteral
  have ended : ∀ last ∈ digits.getLast?, ∀ char ∈ (operator :: behind).head?,
      ¬ NumberContinues last char := by
    intro last lastEnds char begins continues
    rw [← Option.some.inj begins, continues_operator_iff operator last isOperator] at continues
    rcases finished with finished | isHex
    · rw [finished last lastEnds] at continues
      exact Bool.noConfusion continues.2
    · refine ends ⟨isHex, ⟨last, ?_, continues.2⟩, continues.1⟩
      rw [List.getLast?_append, lastEnds]
      rfl
  rcases stop with rfl | rfl
  · exact Scan.initial.run_digits digits _ isNumber ended
  · exact Scan.run_digits { Scan.initial with afterDot := true } digits _ isNumber ended

theorem run_name (isName : (Lexeme.word name.toList).WellFormed) (noKeyword : name ∉ keywords) :
    Scan.initial.run .code name.toList = .ok (NameSet.ofList [name]) := by
  have read := Scan.initial.run_letters name.toList [] isName (by simp)
  have counts : keywords.contains name = false :=
    Bool.eq_false_iff.2 fun found => noKeyword (List.contains_iff_mem.1 found)
  rw [List.append_nil, Scan.endWord, List.reverse_reverse, String.ofList_toList, counts] at read
  exact read

/-- A swallowed operator and the name behind it belong to the number. -/
theorem run_swallowed (isName : (Lexeme.word name.toList).WellFormed)
    (swallows : SwallowsOperator literal operator) :
    Scan.initial.run .code (literal ++ operator :: name.toList) = .ok ∅ := by
  obtain ⟨isHex, ⟨letter, ends, isLetter⟩, signs⟩ := swallows
  have chain : (operator :: name.toList).IsChain NumberContinues := by
    apply List.isChain_cons.2
    have follows : ∀ char ∈ name.toList, Follows char := fun char member =>
      follows_of_continues_word char (isName.2 char member)
    refine ⟨?_, chain_of_follows _ follows⟩
    intro char begins
    exact follows char (List.mem_of_mem_head? begins) operator
  have isNumber : (Lexeme.number (literal ++ operator :: name.toList)).WellFormed := by
    apply number_append literal _ operator (number_of_hexadecimal literal isHex) chain
    intro last lastEnds
    rw [Option.mem_unique lastEnds ends]
    exact .inr (.inr (.inr ⟨(sign_iff operator).1 signs, (exponent_letter_iff letter).1 isLetter⟩))
  have read := Scan.initial.run_digits _ [] isNumber (by simp)
  rw [List.append_nil] at read
  exact read

end Scanned

/-- Behind a complete literal and an operator a name is found exactly if the operator does not read
as the sign of an exponent, of which the last digit of a hexadecimal literal would be the letter.
Otherwise the name is lost. -/
theorem symbols_behind_literal_iff (literal : List Char) (operator : Char) (name : String)
    (isLiteral : Literal literal) (isOperator : operator ∈ ['+', '-', '*', '/'])
    (isName : (Lexeme.word name.toList).WellFormed) (noKeyword : name ∉ keywords) :
    let code := String.ofList (literal ++ operator :: name.toList)
    (symbols code = .ok (NameSet.ofList [name]) ↔ ¬ SwallowsOperator literal operator) ∧
      (SwallowsOperator literal operator → symbols code = .ok ∅) := by
  intro code
  have scanned : symbols code = Scan.initial.run .code (literal ++ operator :: name.toList) := by
    rw [symbols, String.toList_ofList]
  have lost := run_swallowed literal operator name isName
  rw [scanned]
  refine ⟨⟨?_, ?_⟩, lost⟩
  · intro found swallows
    rw [lost swallows, Except.ok.injEq] at found
    apply NameSet.not_mem_empty name
    rw [found, NameSet.mem_of_list]
    exact List.mem_singleton_self name
  · intro ends
    rw [run_literal literal operator _ isLiteral isOperator ends,
      run_operator operator _ isOperator, run_name name isName noKeyword]

/-- A decimal literal with a fraction and a signed exponent, behind which a name is subtracted. -/
theorem symbols_behind_literal_iff_of_scaled :
    let literal := "1_0.5e-3".toList
    let code := String.ofList (literal ++ '-' :: "rho".toList)
    Literal literal ∧ (Lexeme.word "rho".toList).WellFormed ∧ "rho" ∉ keywords ∧
      (symbols code = .ok (NameSet.ofList ["rho"]) ↔ ¬ SwallowsOperator literal '-') ∧
        (SwallowsOperator literal '-' → symbols code = .ok ∅) := by
  have mantissa : Mantissa "1_0.5".toList :=
    .fractional (.divided '1' rfl (.single '0' rfl)) (.single '5' rfl)
  have exponent : Exponent "e-3".toList := .signed 'e' '-' rfl rfl (.single '3' rfl)
  have isLiteral : Literal "1_0.5e-3".toList := .scaled mantissa exponent
  have isName : (Lexeme.word "rho".toList).WellFormed :=
    ⟨⟨'r', rfl, rfl⟩, List.all_eq_true.1 (by decide)⟩
  exact ⟨isLiteral, isName, by decide,
    symbols_behind_literal_iff _ '-' "rho" isLiteral (by decide) isName (by decide)⟩

/-- A hexadecimal literal that ends with the digit e takes the name behind it along. -/
theorem name_swallowed_by_literal :
    Literal "0xfe".toList ∧ (Lexeme.word "x".toList).WellFormed ∧ "x" ∉ keywords ∧
      symbols "0xfe+x" = .ok ∅ ∧ symbols "0xfe+x" ≠ .ok (NameSet.ofList ["x"]) := by
  have isHex : Hexadecimal "0xfe".toList :=
    .prefixed 'x' (.inl rfl) (.cons 'f' rfl (.single 'e' rfl))
  have isName : (Lexeme.word "x".toList).WellFormed :=
    ⟨⟨'x', rfl, rfl⟩, List.all_eq_true.1 (by decide)⟩
  exact ⟨.hexadecimal isHex, isName, by decide, by decide +kernel, by decide +kernel⟩

end PairLoop.Fragment
