import PairLoop.NameSet
import PairLoop.Fragment.Indentation
import PairLoop.Fragment.ParseError
import PairLoop.Unicode.Blank
import PairLoop.Unicode.Numeric

/-!
The names that a code fragment uses. A fragment is a few statements of a small expression
language; only its words matter here, so it is read code point by code point and not parsed. A
word counts unless it is a keyword, an attribute (it follows a full stop), or the name of a
keyword argument of a call. Text in strings, comments and numbers holds no words.
-/

namespace PairLoop.Fragment

open PairLoop.Unicode

def keywords : List String :=
  ["False", "None", "True", "and", "as", "assert", "break", "class", "continue", "def", "del",
   "elif", "else", "except", "finally", "for", "from", "global", "if", "import", "in", "is",
   "lambda", "nonlocal", "not", "or", "pass", "raise", "return", "try", "while", "with", "yield"]

def startsWord (char : Char) : Bool := isAlphabetic char || char == '_'

def continuesWord (char : Char) : Bool := isAlphanumeric char || char == '_'

/-- Whether a number goes on with a code point, given the one before. A sign goes on only behind
the letter of an exponent. -/
def continuesNumber (previous char : Char) : Bool :=
  isAlphanumeric char || char == '.' || char == '_' ||
    ((char == '+' || char == '-') && (previous == 'e' || previous == 'E'))

def isQuote (char : Char) : Bool := char == '"' || char == '\x27'

def isOpening (char : Char) : Bool := char == '(' || char == '[' || char == '{'

def opening? : Char → Option Char
  | ')' => some '('
  | ']' => some '['
  | '}' => some '{'
  | _ => none

/-- Whether the text behind a word makes it the name of an argument: spaces and tabs, and an
equals sign that is not the first of two. -/
def beginsAssignment (text : List Char) : Bool :=
  match text.dropWhile isIndent with
  | '=' :: '=' :: _ => false
  | '=' :: _ => true
  | _ => false

inductive Mode
  | code
  | comment
  /-- Inside a string literal that ends with this quote. -/
  | string (quote : Char)
  /-- Behind a backslash inside a string literal. -/
  | escape (quote : Char)
  /-- Inside a number whose last code point is given. -/
  | number (previous : Char)
  /-- Inside a word whose letters are given, the last one first. -/
  | word (letters : List Char)
deriving DecidableEq

structure Scan where
  /-- The line number, from one. A line feed that a backslash hides in a string is not counted. -/
  line : Nat
  /-- The open brackets and their lines, the innermost first. -/
  opened : List (Char × Nat)
  /-- Whether the last code point of the code that is not white space is a full stop. -/
  afterDot : Bool
  symbols : NameSet
deriving DecidableEq

namespace Scan

def initial : Scan := ⟨1, [], false, ∅⟩

def fail (scan : Scan) (fault : Fault) : ParseError := ⟨scan.line, fault⟩

/-- Whether the innermost open bracket is that of a call or a group. -/
def insideParentheses (scan : Scan) : Bool :=
  match scan.opened with
  | (bracket, _) :: _ => bracket == '('
  | [] => false

def endWord (scan : Scan) (letters after : List Char) : Scan :=
  let name := String.ofList letters.reverse
  let counts := !scan.afterDot && !(scan.insideParentheses && beginsAssignment after) &&
    !keywords.contains name
  { scan with
    afterDot := false
    symbols := if counts then scan.symbols.insert name else scan.symbols }

def openBracket (scan : Scan) (bracket : Char) : Scan :=
  { scan with opened := (bracket, scan.line) :: scan.opened, afterDot := false }

/-- Closes the innermost open bracket, which must be `expected`, with `bracket`. -/
def closeBracket (scan : Scan) (expected bracket : Char) : Except ParseError Scan :=
  match scan.opened with
  | (found, _) :: outer =>
    if found = expected then .ok { scan with opened := outer, afterDot := false }
    else .error (scan.fail (.unmatched bracket))
  | [] => .error (scan.fail (.unmatched bracket))

def start (scan : Scan) (char : Char) : Except ParseError (Scan × Mode) :=
  if char = '\n' then .ok ({ scan with line := scan.line + 1 }, .code)
  else if char = '#' then .ok (scan, .comment)
  else if isQuote char then .ok ({ scan with afterDot := false }, .string char)
  else if isOpening char then .ok (scan.openBracket char, .code)
  else match opening? char with
    | some expected => (scan.closeBracket expected char).map fun closed => (closed, .code)
    | none =>
      if char.isDigit then .ok ({ scan with afterDot := false }, .number char)
      else if startsWord char then .ok (scan, .word [char])
      else if isWhiteSpace char then .ok (scan, .code)
      else .ok ({ scan with afterDot := char == '.' }, .code)

def step (scan : Scan) (mode : Mode) (char : Char) (rest : List Char) :
    Except ParseError (Scan × Mode) :=
  match mode with
  | .code => scan.start char
  | .comment => if char = '\n' then scan.start char else .ok (scan, .comment)
  | .string quote =>
    if char = '\n' then .error (scan.fail .unterminatedString)
    else if char = '\\' then .ok (scan, .escape quote)
    else if char = quote then .ok (scan, .code)
    else .ok (scan, .string quote)
  | .escape quote => .ok (scan, .string quote)
  | .number previous =>
    if continuesNumber previous char then .ok (scan, .number char) else scan.start char
  | .word letters =>
    if continuesWord char then .ok (scan, .word (char :: letters))
    else (scan.endWord letters (char :: rest)).start char

def close (scan : Scan) : Except ParseError NameSet :=
  match scan.opened with
  | [] => .ok scan.symbols
  | (bracket, line) :: _ => .error ⟨line, .unclosed bracket⟩

def finish (scan : Scan) (mode : Mode) : Except ParseError NameSet :=
  match mode with
  | .string _ => .error (scan.fail .unterminatedString)
  | .escape _ => .error (scan.fail .unterminatedString)
  | .word letters => (scan.endWord letters []).close
  | _ => scan.close

def run (scan : Scan) (mode : Mode) : List Char → Except ParseError NameSet
  | [] => scan.finish mode
  | char :: rest =>
    match scan.step mode char rest with
    | .error error => .error error
    | .ok (next, nextMode) => next.run nextMode rest

end Scan

/-- The names that a fragment uses, or the first fault in it. -/
def symbols (code : String) : Except ParseError NameSet := Scan.initial.run .code code.toList

end PairLoop.Fragment
