import ScopeLexer.Main
import ScopeLexer.Proofs.Scan.Coverage
import ScopeLexer.Proofs.Regex.Forward
import ScopeLexer.Proofs.Scope.Arena
import ScopeLexer.Proofs.Scope.Preorder
import ScopeLexer.Proofs.Scope.Spine
import ScopeLexer.Proofs.Scope.Forest
import ScopeLexer.Proofs.Cache
import ScopeLexer.Proofs.Scan.Cache
import ScopeLexer.Proofs.Scope.Token
import ScopeLexer.Proofs.Scan.Containment
import ScopeLexer.Proofs.Scan.Absolute
import ScopeLexer.Proofs.Regex.Reading.Bracket
import ScopeLexer.Proofs.Regex.Reading.Token
import ScopeLexer.Proofs.Regex.Renumber
import ScopeLexer.Proofs.Language.Unnumbered
import ScopeLexer.Proofs.Regex.Reading.Moved
import ScopeLexer.Proofs.Language.Reading
import ScopeLexer.Proofs.Language.Joined
import ScopeLexer.Proofs.Regex.Landmark
import ScopeLexer.Proofs.Regex.Analyses
import ScopeLexer.Proofs.Regex.Settling
import ScopeLexer.Proofs.Language.Resolved
import ScopeLexer.Proofs.Regex.Coding
import ScopeLexer.Proofs.Regex.Paired
import ScopeLexer.Proofs.Regex.Simulation
import ScopeLexer.Proofs.Regex.Branches
import ScopeLexer.Proofs.Language.Checked
import ScopeLexer.Proofs.Language.Compiled
import ScopeLexer.Proofs.Language.Faithful
import ScopeLexer.Proofs.Language.Faults
import ScopeLexer.Proofs.Scan.Alike
import ScopeLexer.Proofs.Session
import ScopeLexer.Proofs.Scan.Call
import ScopeLexer.Proofs.Scan.Depth
import ScopeLexer.Proofs.Scan.Delegation
import ScopeLexer.Proofs.Scan.Progress
import ScopeLexer.Proofs.Scan.Rounds
import ScopeLexer.Proofs.Scan.Limit
import ScopeLexer.Proofs.Scan.Ending
import ScopeLexer.Proofs.Scan.Reuse
import ScopeLexer.Proofs.Language.Table
import ScopeLexer.Proofs.Sorting
import ScopeLexer.Proofs.Scope.Row
import ScopeLexer.Proofs.Scope.Covering
import ScopeLexer.Proofs.Scope.Host
import ScopeLexer.Proofs.Scope.Order
import ScopeLexer.Proofs.Scope.Descent
import ScopeLexer.Proofs.Catalogue
import ScopeLexer.Proofs.Scan.Display
import ScopeLexer.Proofs.Slots
import ScopeLexer.Proofs.Access
import ScopeLexer.Proofs.Scan.Access
import ScopeLexer.Proofs.History
import ScopeLexer.Proofs.Scan.Order
import ScopeLexer.Proofs.Scope.Translation
import ScopeLexer.Proofs.Scope.InPlace
import ScopeLexer.Proofs.Scope.Walk
import ScopeLexer.Proofs.Language.Verdict
import ScopeLexer.Proofs.Unicode.Lowercase
import ScopeLexer.Proofs.Lookup
import ScopeLexer.Proofs.Language.Reference
import ScopeLexer.Proofs.Scope.Links
import ScopeLexer.Proofs.Language.Unambiguous
