import VeraHub.Acp.Priority
import VeraHub.Acp.RegistrationProofs
import VeraHub.Acp.RelationScans
import VeraHub.App.Proposal
import VeraHub.Backend.Overlay
import VeraHub.Bulletin.Glob
import VeraHub.Consensus.Mempool
import VeraHub.Domain.ReceiptCommitment
import VeraHub.Executor.Committee
import VeraHub.Executor.JournalRuns
import VeraHub.Executor.NativeNonces
import VeraHub.Permission.Response
import VeraHub.Rings.Reshares
import VeraHub.Vera.OutcomeLedgers
import VeraHub.Vera.Rosters
import VeraHub.Zanzibar.Budget
import VeraHub.Zanzibar.Display
import VeraHub.Zanzibar.SubjectCodec
import VeraHub.Zanzibar.Trace
