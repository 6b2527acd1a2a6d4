import DocumentCatalog.Main
import DocumentCatalog.Pool.Rehearsal
import DocumentCatalog.Service.Session
import DocumentCatalog.Proofs.Entries
import DocumentCatalog.Proofs.Query.Condition
import DocumentCatalog.Proofs.Query.Selection
import DocumentCatalog.Proofs.Query.Order
import DocumentCatalog.Proofs.Filter.Token
import DocumentCatalog.Proofs.Filter.Writes
import DocumentCatalog.Proofs.Filter.Meaning
import DocumentCatalog.Proofs.Filter.Layout
import DocumentCatalog.Proofs.Service.Paging
import DocumentCatalog.Proofs.Service.Bounds
import DocumentCatalog.Proofs.Service.Arrangement
import DocumentCatalog.Proofs.Text.Split
import DocumentCatalog.Proofs.Service.Constraints
import DocumentCatalog.Proofs.Pool.Latest
import DocumentCatalog.Proofs.Pool.Renewal
import DocumentCatalog.Proofs.Pool.Sharing
import DocumentCatalog.Proofs.Pool.Course
import DocumentCatalog.Proofs.Query.Ranking
import DocumentCatalog.Proofs.Json.Alike
import DocumentCatalog.Proofs.Query.Privacy
import DocumentCatalog.Proofs.Filter.Rendering
import DocumentCatalog.Proofs.Filter.Dropping
import DocumentCatalog.Proofs.Filter.Form
import DocumentCatalog.Proofs.Filter.Concatenation
import DocumentCatalog.Proofs.Filter.Reports
import DocumentCatalog.Proofs.Filter.Joined
import DocumentCatalog.Proofs.Filter.Replacement
import DocumentCatalog.Proofs.Pattern.Literal
import DocumentCatalog.Proofs.Service.Search
import DocumentCatalog.Proofs.Query.Missing
import DocumentCatalog.Proofs.Query.Integers
import DocumentCatalog.Proofs.Service.Snapshot
import DocumentCatalog.Proofs.Filter.Connectives
import DocumentCatalog.Proofs.Query.Reordering
import DocumentCatalog.Proofs.Query.Spelling
import DocumentCatalog.Proofs.Query.Sorting
import DocumentCatalog.Proofs.Query.Comparison
import DocumentCatalog.Proofs.Query.Choice
import DocumentCatalog.Proofs.Service.Ids
import DocumentCatalog.Proofs.Service.Narrowing
import DocumentCatalog.Proofs.Query.Projection
import DocumentCatalog.Proofs.Store.Directory
import DocumentCatalog.Proofs.Filter.Merging
import DocumentCatalog.Proofs.Query.Path
import DocumentCatalog.Proofs.Service.Lists
