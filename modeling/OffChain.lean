import OffChain.Json.Loose
import OffChain.Main
import OffChain.Proofs.Abi.Endings
import OffChain.Proofs.Abi.Reading
import OffChain.Proofs.Cache.Accounts
import OffChain.Proofs.Cache.Failures
import OffChain.Proofs.Cache.Inquiries
import OffChain.Proofs.Cache.LastWrites
import OffChain.Proofs.Cache.Refusal
import OffChain.Proofs.Cache.Transparency
import OffChain.Proofs.Classification.Backfill
import OffChain.Proofs.Classification.Channel
import OffChain.Proofs.Classification.Examination
import OffChain.Proofs.Classification.Flight
import OffChain.Proofs.Classification.Labels
import OffChain.Proofs.Classification.Persistence
import OffChain.Proofs.Classification.Progress
import OffChain.Proofs.Classification.Reordering
import OffChain.Proofs.Json.ByName
import OffChain.Proofs.Report.Amount
import OffChain.Proofs.Report.Instant
import OffChain.Proofs.Store.Cursor
import OffChain.Proofs.Store.Flags
import OffChain.Proofs.Store.Ingestion
import OffChain.Proofs.Store.Listing
import OffChain.Proofs.Store.MalformedRows
import OffChain.Proofs.Store.Refinement
import OffChain.Proofs.Store.Return
import OffChain.Proofs.Store.Walk
import OffChain.Proofs.Store.Window
import OffChain.Store.Direct
