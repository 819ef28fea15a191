import PairLoop.Dependency.Closure
import PairLoop.Group.Code
import PairLoop.Group.Declarations
import PairLoop.Group.Wrappers
import PairLoop.Library.SelfTest
import PairLoop.Library.Standard
import PairLoop.Proofs.Dependency.Reach
import PairLoop.Proofs.Dependency.Chain
import PairLoop.Proofs.Dependency.Pass
import PairLoop.Proofs.Dependency.Weight
import PairLoop.Proofs.Dependency.ClosedPart
import PairLoop.Proofs.Dependency.Levels
import PairLoop.Proofs.Dependency.LevelOrder
import PairLoop.Proofs.Dependency.Component
import PairLoop.Proofs.Dependency.Cycle
import PairLoop.Proofs.Dependency.Closure
import PairLoop.Proofs.Fragment.Lexeme
import PairLoop.Proofs.Fragment.Reading
import PairLoop.Proofs.Fragment.Nesting
import PairLoop.Proofs.Fragment.Uses
import PairLoop.Proofs.Fragment.Margin
import PairLoop.Proofs.Fragment.Outdented
import PairLoop.Proofs.Fragment.Division
import PairLoop.Proofs.Fragment.Offence
import PairLoop.Proofs.Fragment.OffenceLine
import PairLoop.Proofs.Fragment.Literal
import PairLoop.Proofs.Fragment.Stacked
import PairLoop.Proofs.Text.Token
import PairLoop.Proofs.Text.Word
import PairLoop.Proofs.Text.Rewriting
import PairLoop.Proofs.Text.AtOnce
import PairLoop.Proofs.Name.Lowered
import PairLoop.Proofs.Name.Boundary
import PairLoop.Proofs.Context.Overlay
import PairLoop.Proofs.Json.Numeral
import PairLoop.Proofs.Json.Document
import PairLoop.Proofs.Context.Written
import PairLoop.Proofs.Context.RoundTrip
import PairLoop.Proofs.Context.Declared
import PairLoop.Proofs.Kernel.Tokens
import PairLoop.Proofs.Kernel.WholeWords
import PairLoop.Proofs.Kernel.AtOnce
import PairLoop.Proofs.Group.Resolution
import PairLoop.Proofs.Group.Update
import PairLoop.Proofs.Group.PairCode
import PairLoop.Proofs.Group.Run
import PairLoop.Proofs.Group.VariableNames
import PairLoop.Proofs.Group.Growth
import PairLoop.Proofs.Group.Reordering
import PairLoop.Proofs.Group.Reachable
import PairLoop.Proofs.Group.KernelCode
import PairLoop.Proofs.Group.ArrayNames
import PairLoop.Proofs.Group.UnpairedCode
import PairLoop.Proofs.Group.Strictness
import PairLoop.Proofs.Group.Roles
import PairLoop.Proofs.Group.Presence
import PairLoop.Proofs.Group.Generation
import PairLoop.Proofs.Library.SelfTest
import PairLoop.Proofs.Library.Block
import PairLoop.Proofs.Library.Entries
import PairLoop.Proofs.Library.Evaluators
import PairLoop.Proofs.Library.Seed
import PairLoop.Proofs.Library.Standard
import PairLoop.Proofs.Library.Confined
