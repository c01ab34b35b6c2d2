import Listing.Logging
import Listing.Proofs.Acceptance
import Listing.Proofs.Agreement
import Listing.Proofs.Atomicity
import Listing.Proofs.Blanks
import Listing.Proofs.Body
import Listing.Proofs.BodyForm
import Listing.Proofs.BodyLists
import Listing.Proofs.BodyText
import Listing.Proofs.Comparison
import Listing.Proofs.Document.Decoding
import Listing.Proofs.Document.Escape
import Listing.Proofs.Document.Identifiers
import Listing.Proofs.Document.Like
import Listing.Proofs.Document.Watched
import Listing.Proofs.Execution
import Listing.Proofs.Integers
import Listing.Proofs.Interval
import Listing.Proofs.Lists
import Listing.Proofs.Literals
import Listing.Proofs.Narrowing
import Listing.Proofs.Ordering
import Listing.Proofs.Page
import Listing.Proofs.Paging
import Listing.Proofs.Patterns
import Listing.Proofs.Pieces
import Listing.Proofs.Priority
import Listing.Proofs.Recording
import Listing.Proofs.Safety
import Listing.Proofs.Shape
import Listing.Proofs.SortText
import Listing.Proofs.Sorting
import Listing.Proofs.Sql.Binding
import Listing.Proofs.Sql.Bodies
import Listing.Proofs.Sql.History
import Listing.Proofs.Sql.Identifier
import Listing.Proofs.Sql.Integers
import Listing.Proofs.Sql.Secrecy
import Listing.Proofs.Walk
import Listing.Recording
import Listing.Sql.Parameter
