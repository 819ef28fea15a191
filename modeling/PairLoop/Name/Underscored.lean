import PairLoop.Unicode.Lowercase

/-!
From a name in capitalised words to a name in lower case with underscores. An underscore is set
in front of a capital that begins a capitalised word, then between a small letter or digit and
a capital; last the whole name is lowered. Only ASCII letters and digits mark boundaries.
-/

namespace PairLoop.Name

def isCapital (char : Char) : Bool := char.isUpper

def isSmall (char : Char) : Bool := char.isLower

def beginsSmall : List Char → Bool
  | [] => false
  | char :: _ => isSmall char

/-- Sets an underscore between a code point, line feed excepted, and a capitalised word behind it.
The code point and the word are then used up: the small letters of the word, which are read while
`inWord` holds, cannot be such a code point themselves. -/
def markWords (inWord : Bool) : List Char → List Char
  | [] => []
  | char :: rest =>
    if inWord && isSmall char then char :: markWords true rest
    else match rest with
      | [] => [char]
      | next :: tail =>
        if char != '\n' && isCapital next && beginsSmall tail then
          char :: '_' :: next :: markWords true tail
        else char :: markWords false (next :: tail)

/-- Sets an underscore between a small letter or digit and a capital. -/
def markCapitals : List Char → List Char
  | [] => []
  | [char] => [char]
  | char :: next :: rest =>
    if (isSmall char || char.isDigit) && isCapital next then
      char :: '_' :: markCapitals (next :: rest)
    else char :: markCapitals (next :: rest)

def underscored (name : String) : String :=
  String.ofList (Unicode.lower (markCapitals (markWords false name.toList)))

end PairLoop.Name
