import RollingHistory.Archive
import RollingHistory.Capability.Extractive
import RollingHistory.Capability.Scripted
import RollingHistory.Demo
import RollingHistory.History.Journal
import RollingHistory.History.Schedule
import RollingHistory.History.Snapshot
import RollingHistory.Json.Printer
import RollingHistory.Json.Reader
import RollingHistory.Main
import RollingHistory.Proofs.Gate
import RollingHistory.Proofs.Shedding
import RollingHistory.Proofs.Underway
import RollingHistory.Proofs.Interface
import RollingHistory.Proofs.Serializability
import RollingHistory.Proofs.Conservation
import RollingHistory.Proofs.Bounds
import RollingHistory.Proofs.Restoration
import RollingHistory.Proofs.WireFormat
import RollingHistory.Proofs.Acceptance
import RollingHistory.Proofs.Cancellation
import RollingHistory.Proofs.Lifetime
import RollingHistory.Proofs.Cuts
import RollingHistory.Proofs.Accounting
import RollingHistory.Proofs.Presence
import RollingHistory.Proofs.Concatenation
import RollingHistory.Proofs.Amortization
import RollingHistory.Proofs.Noninterference
import RollingHistory.Proofs.Archiving
import RollingHistory.Proofs.Binding
import RollingHistory.Proofs.Lasting
import RollingHistory.Proofs.Bullets
import RollingHistory.Proofs.Extraction
import RollingHistory.Proofs.Exclusion
import RollingHistory.Proofs.Settlement
import RollingHistory.Proofs.Rounds
import RollingHistory.Proofs.Answers
import RollingHistory.Proofs.Grammar
import RollingHistory.Proofs.CanonicalForm
import RollingHistory.Proofs.Sessions
import RollingHistory.Proofs.Batching
import RollingHistory.Proofs.AuditTrail
import RollingHistory.Proofs.Blocks
