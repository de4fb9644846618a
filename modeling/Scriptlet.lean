import Scriptlet.Main
import Scriptlet.Proofs.CallFrames
import Scriptlet.Proofs.Grammar.Roundtrip
import Scriptlet.Proofs.Tree.Parts
import Scriptlet.Proofs.Tree.Relabeling
import Scriptlet.Proofs.Values
import Scriptlet.Proofs.Lookups
import Scriptlet.Proofs.SideBySide
import Scriptlet.Proofs.Noninterference
import Scriptlet.Proofs.Endings
import Scriptlet.Proofs.Sessions
import Scriptlet.Proofs.Audit
import Scriptlet.Proofs.Unwinding
import Scriptlet.Proofs.Grammar.Joining
import Scriptlet.Proofs.Sequencing
import Scriptlet.Proofs.Grammar.Room
import Scriptlet.Proofs.Grammar.Heights
import Scriptlet.Proofs.Token.Munch
import Scriptlet.Proofs.Token.Tiling
import Scriptlet.Proofs.Token.Layout
import Scriptlet.Proofs.Grammar.Uniform
import Scriptlet.Proofs.Spacing
import Scriptlet.Proofs.Token.Escapes
import Scriptlet.Proofs.Token.Phrases
import Scriptlet.Proofs.Grammar.Literals
import Scriptlet.Proofs.ReadBack
import Scriptlet.Proofs.Assignments
import Scriptlet.Proofs.CallLimits
import Scriptlet.Proofs.Dialogues
import Scriptlet.Proofs.Grammar.Origins
import Scriptlet.Proofs.Places
import Scriptlet.Proofs.CallDepth
import Scriptlet.Proofs.Termination
import Scriptlet.Proofs.FullSinks
import Scriptlet.Proofs.Arithmetic
import Scriptlet.Proofs.Grammar.Branches
import Scriptlet.Proofs.Number.Comparison
import Scriptlet.Proofs.Scripts
import Scriptlet.Proofs.Conversations
import Scriptlet.Proofs.Token.Failures
import Scriptlet.Proofs.Token.Strings
import Scriptlet.Proofs.Number.Exact
import Scriptlet.Proofs.Tree.Sameness
import Scriptlet.Proofs.Equality
import Scriptlet.Proofs.Indices
import Scriptlet.Proofs.Locations
import Scriptlet.Proofs.Overflow
import Scriptlet.Proofs.Displays
import Scriptlet.Proofs.Grammar.Behind
