import Leasehold.Proofs.Agreement
import Leasehold.Proofs.Archive
import Leasehold.Proofs.Arrangements
import Leasehold.Proofs.Charges
import Leasehold.Proofs.Collisions
import Leasehold.Proofs.Connections
import Leasehold.Proofs.Contest
import Leasehold.Proofs.Decoding
import Leasehold.Proofs.Discipline
import Leasehold.Proofs.Exclusion
import Leasehold.Proofs.Expiry
import Leasehold.Proofs.Foresight
import Leasehold.Proofs.Granularity
import Leasehold.Proofs.Isolation
import Leasehold.Proofs.Leases
import Leasehold.Proofs.Lines
import Leasehold.Proofs.Messages
import Leasehold.Proofs.Payloads
import Leasehold.Proofs.Recovery
import Leasehold.Proofs.Reports
import Leasehold.Proofs.Rollback
import Leasehold.Proofs.ServerRefinement
import Leasehold.Proofs.StoreRefinement
import Leasehold.Server.Backend
import Leasehold.Snapshot.Printer
import Leasehold.Snapshot.Reader
import Leasehold.Store.Backend
import Leasehold.Proofs.Bookkeeping
