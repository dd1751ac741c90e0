import SelectBuilder.Text.Case
import SelectBuilder.Text.Blank
import SelectBuilder.Text.Json
import SelectBuilder.Text.Base64
import SelectBuilder.Text.Hex
import SelectBuilder.Text.Path
import SelectBuilder.Number.Shortest
import SelectBuilder.Number.Decimal
import SelectBuilder.Keyword
import SelectBuilder.Problem
import SelectBuilder.Value.Printer
import SelectBuilder.Value.Descriptor
import SelectBuilder.Builder.Call
import SelectBuilder.Store.Basic
import SelectBuilder.Store.Copy
import SelectBuilder.Builder.Method
import SelectBuilder.Logging.Template
import SelectBuilder.Value.Json
import SelectBuilder.Logging.Timestamp
import SelectBuilder.Logging.Delivery
import SelectBuilder.Value.Equality
import SelectBuilder.Clause.Node
import SelectBuilder.Store.Factory
import SelectBuilder.Session
import SelectBuilder.Value.Problems
import SelectBuilder.About
import SelectBuilder.Proofs.Logging.StructuredLine
import SelectBuilder.Proofs.Session.Accounting
import SelectBuilder.Proofs.Session.Admission
import SelectBuilder.Proofs.Session.Atomicity
import SelectBuilder.Proofs.Session.Balance
import SelectBuilder.Proofs.Session.Commuting
import SelectBuilder.Proofs.Session.Conditions
import SelectBuilder.Proofs.Session.Confinement
import SelectBuilder.Proofs.Session.Consistency
import SelectBuilder.Proofs.Session.Copying
import SelectBuilder.Proofs.Session.Documented
import SelectBuilder.Proofs.Session.Embedding
import SelectBuilder.Proofs.Session.Entries
import SelectBuilder.Proofs.Session.Events
import SelectBuilder.Proofs.Session.Expansion
import SelectBuilder.Proofs.Session.Factories
import SelectBuilder.Proofs.Session.Freezing
import SelectBuilder.Proofs.Session.Gathering
import SelectBuilder.Proofs.Session.Interchange
import SelectBuilder.Proofs.Session.Keywords
import SelectBuilder.Proofs.Session.Lasting
import SelectBuilder.Proofs.Session.Listing
import SelectBuilder.Proofs.Session.Loosening
import SelectBuilder.Proofs.Session.Pagination
import SelectBuilder.Proofs.Session.Reading
import SelectBuilder.Proofs.Session.Reconfiguration
import SelectBuilder.Proofs.Session.Rendering
import SelectBuilder.Proofs.Session.Reporting
import SelectBuilder.Proofs.Session.Spelling
import SelectBuilder.Proofs.Session.Subqueries
import SelectBuilder.Proofs.Value.Problems
