import PairLoop.Unicode.Printable

/-!
Names in listings for people: in double quotes, with what would not show written as an escape, and
gathered in brackets or braces.
-/

namespace PairLoop.Listing

def hexText (number : Nat) : List Char := Nat.toDigits 16 number

def shown (char : Char) : List Char :=
  if char = '"' then ['\\', '"']
  else if char = '\\' then ['\\', '\\']
  else if char = '\n' then ['\\', 'n']
  else if char = '\t' then ['\\', 't']
  else if char = '\r' then ['\\', 'r']
  else if char.toNat = 0 then ['\\', '0']
  else if Unicode.isShown char then [char]
  else ['\\', 'u', '{'] ++ hexText char.toNat ++ ['}']

def quoted (text : String) : String :=
  String.ofList ('"' :: text.toList.flatMap shown ++ ['"'])

def quotedAll (texts : List String) : String := String.intercalate ", " (texts.map quoted)

def bracketed (texts : List String) : String := "[" ++ quotedAll texts ++ "]"

def braced (texts : List String) : String := "\x7b" ++ quotedAll texts ++ "\x7d"

end PairLoop.Listing
