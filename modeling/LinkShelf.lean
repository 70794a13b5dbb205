import LinkShelf.Main
import LinkShelf.Url.Reader
import LinkShelf.Settings
import LinkShelf.Query.Json
import LinkShelf.Link.Json
import LinkShelf.Decimal.Double
import LinkShelf.Host.Machine
import LinkShelf.Json.Printer
import LinkShelf.Json.Reader
import LinkShelf.Store.LinkFile
import LinkShelf.Time.Relaxed
import LinkShelf.Proofs.Time.Order
import LinkShelf.Proofs.Store.Listing
import LinkShelf.Proofs.Store.Visibility
import LinkShelf.Proofs.Host.Names
import LinkShelf.Proofs.Json.RoundTrip
import LinkShelf.Proofs.Link.RoundTrip
import LinkShelf.Proofs.Program.Runs
import LinkShelf.Proofs.Filter.Meaning
import LinkShelf.Proofs.Filter.Occurrence
import LinkShelf.Proofs.Query.Words
import LinkShelf.Proofs.Store.Search
import LinkShelf.Proofs.Host.Machine
import LinkShelf.Proofs.Store.Table
import LinkShelf.Proofs.Store.LinkFile
import LinkShelf.Proofs.Query.Seam
import LinkShelf.Proofs.Query.Writing
import LinkShelf.Proofs.Store.Narrowing
import LinkShelf.Proofs.Store.Freshness
import LinkShelf.Proofs.Store.Reload
import LinkShelf.Proofs.Query.Refusal
import LinkShelf.Proofs.Store.Fallback
import LinkShelf.Proofs.Store.Restart
import LinkShelf.Proofs.Store.Exhaustion
import LinkShelf.Proofs.Program.Add
import LinkShelf.Proofs.Store.Arrival
import LinkShelf.Proofs.Store.Reordering
import LinkShelf.Proofs.Store.Rows
import LinkShelf.Proofs.Store.Spellings
import LinkShelf.Proofs.Program.Search
import LinkShelf.Proofs.Settings.Loading
import LinkShelf.Proofs.Settings.Saving
import LinkShelf.Proofs.Filter.Recasing
import LinkShelf.Proofs.Query.Places
