import Issuance.Connection
import Issuance.Json.Printer
import Issuance.Lifecycle.Ledger
import Issuance.Log.Journal
import Issuance.Proofs.Addressing
import Issuance.Proofs.Assembly
import Issuance.Proofs.Closure
import Issuance.Proofs.Config
import Issuance.Proofs.Course
import Issuance.Proofs.Delivery
import Issuance.Proofs.FailFast
import Issuance.Proofs.Failure
import Issuance.Proofs.Grounds
import Issuance.Proofs.Guards
import Issuance.Proofs.Identifier
import Issuance.Proofs.Import
import Issuance.Proofs.Journal
import Issuance.Proofs.Ledger
import Issuance.Proofs.Limit
import Issuance.Proofs.Loading
import Issuance.Proofs.Masking
import Issuance.Proofs.Pickup
import Issuance.Proofs.Provenance
import Issuance.Proofs.Reconfiguration
import Issuance.Proofs.Redaction
import Issuance.Proofs.Rekeying
import Issuance.Proofs.Renewal
import Issuance.Proofs.Replay
import Issuance.Proofs.Report
import Issuance.Proofs.Request
import Issuance.Proofs.Resumption
import Issuance.Proofs.RoundTrip
import Issuance.Proofs.Spelling
import Issuance.Proofs.Verification
import Issuance.Proofs.Wire
import Issuance.Proofs.Writes
import Issuance.Proofs.Zone
import Issuance.Version
