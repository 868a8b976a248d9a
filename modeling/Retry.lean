import Retry.Settings.Decoding
import Retry.Settings.Environment
import Retry.Unicode.Category
import Retry.Unicode.Script
import Retry.Unicode.Age
import Retry.Unicode.Folding
import Retry.Unicode.Property
import Retry.Regex.Reader
import Retry.Regex.Expr
import Retry.Regex.Matching
import Retry.Pattern
import Retry.Regex
import Retry.Condition
import Retry.Blueprint
import Retry.Fleet
import Retry.Proofs.Execution.Run
import Retry.Proofs.Execution.AttemptBound
import Retry.Proofs.Execution.Announcement
import Retry.Proofs.Binary64.Nearest
import Retry.Proofs.Binary64.Order
import Retry.Proofs.Backoff.Floor
import Retry.Proofs.Execution.Cancellation
import Retry.Proofs.Execution.Chapter
import Retry.Proofs.Execution.Consultation
import Retry.Proofs.Execution.Report
import Retry.Proofs.Execution.Records
import Retry.Proofs.Fleet.Turn
import Retry.Proofs.Execution.Comparison
import Retry.Proofs.Fleet.Interleaving
import Retry.Proofs.Execution.Modes
import Retry.Proofs.Execution.Permissiveness
import Retry.Proofs.Execution.AgeLimit
import Retry.Proofs.Blueprint.Assembly
import Retry.Proofs.Backoff.Cap
import Retry.Proofs.Settings.Selection
import Retry.Proofs.Settings.Strictness
import Retry.Proofs.Binary64.Product
import Retry.Proofs.Binary64.Power
import Retry.Proofs.Backoff.Growth
import Retry.Proofs.Binary64.Exact
import Retry.Proofs.Backoff.Exactness
import Retry.Proofs.Settings.Fields
import Retry.Proofs.Settings.Documents
import Retry.Proofs.Settings.RoundTrip
import Retry.Proofs.Backoff.FirstDelay
import Retry.Proofs.Backoff.Raising
import Retry.Proofs.Condition.Leaves
import Retry.Proofs.Execution.Effects
import Retry.Proofs.Settings.Demands
import Retry.Proofs.Condition.Kinds
import Retry.Proofs.Condition.Texts
import Retry.Proofs.Backoff.Setters
