import PairLoop.Dependency.Reach
import PairLoop.Library.Basic

/-!
The blocks that a list of wanted names calls for: those of the names themselves, those that these
use, and so on. Names without a block call for nothing.
-/

namespace PairLoop.Library

open PairLoop.Dependency

def closure (library : Library) (seeds : List String) : NameSet :=
  reach library.nameSet library.symbolsOf (.ofList seeds)

end PairLoop.Library
