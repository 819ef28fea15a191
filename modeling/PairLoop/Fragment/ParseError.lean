/-!
Why a code fragment is refused. The scan of a fragment knows three faults; an extractor supplied
by a caller states its own.
-/

namespace PairLoop

inductive Fault
  /-- A string literal meets the end of its line or of the text. -/
  | unterminatedString
  /-- A closing bracket meets no open bracket of its kind. -/
  | unmatched (bracket : Char)
  /-- A bracket is still open at the end of the text. -/
  | unclosed (bracket : Char)
  /-- A fault in the words of a supplied extractor. -/
  | reported (detail : String)
deriving DecidableEq

def Fault.detail : Fault → String
  | .unterminatedString => "unterminated string literal"
  | .unmatched bracket => "unmatched '" ++ bracket.toString ++ "'"
  | .unclosed bracket => "unclosed '" ++ bracket.toString ++ "'"
  | .reported detail => detail

structure ParseError where
  line : Nat
  fault : Fault
deriving DecidableEq

def ParseError.message (error : ParseError) : String :=
  "Parse error on line " ++ toString error.line ++ ": " ++ error.fault.detail

end PairLoop
