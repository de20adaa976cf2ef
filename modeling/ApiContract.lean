import ApiContract.Text.Blank
import ApiContract.Text.Segments
import ApiContract.Text.Case
import ApiContract.Number.Shortest
import ApiContract.Json.Number
import ApiContract.Json.Reader
import ApiContract.Json.Printer
import ApiContract.Document.Reference
import ApiContract.Document.Listing
import ApiContract.Text.Utf8
import ApiContract.Routing.Route
import ApiContract.Http.Request
import ApiContract.Conformance.Request
import ApiContract.Yaml.Value
import ApiContract.Toml.Table
import ApiContract.Settings.Source
import ApiContract.Document.Store
import ApiContract.Logging.Settings
import ApiContract.Main
import ApiContract.Proofs.Conformance.Inlining
import ApiContract.Proofs.Conformance.Soundness
import ApiContract.Proofs.Conformance.Guarantee
import ApiContract.Proofs.Routing.Selection
import ApiContract.Proofs.Routing.Instance
import ApiContract.Proofs.Conformance.Agreement
import ApiContract.Proofs.Conformance.NullSections
import ApiContract.Proofs.Document.Parameters
import ApiContract.Proofs.Conformance.Comparison
import ApiContract.Proofs.Document.Reordering
import ApiContract.Proofs.Conformance.Ordering
import ApiContract.Proofs.Conformance.Lists
import ApiContract.Proofs.Conformance.Acceptance
import ApiContract.Proofs.Conformance.Interference
import ApiContract.Proofs.Conformance.Inert
import ApiContract.Proofs.Settings.MountPoint
import ApiContract.Proofs.Conformance.Mounting
import ApiContract.Proofs.Conformance.Binding
import ApiContract.Proofs.Conformance.Extension
import ApiContract.Proofs.Document.Walk
import ApiContract.Proofs.Document.Reassembly
import ApiContract.Proofs.Routing.Listing
import ApiContract.Proofs.Document.History
import ApiContract.Proofs.Conformance.Recursion
import ApiContract.Proofs.Conformance.Immaterial
import ApiContract.Proofs.Document.Merging
import ApiContract.Proofs.Routing.PatternText
import ApiContract.Proofs.Document.Site
import ApiContract.Proofs.Document.Inspection
import ApiContract.Proofs.Document.Suppression
import ApiContract.Proofs.Document.Target
import ApiContract.Proofs.Document.Mention
import ApiContract.Proofs.Conformance.Unresolved
import ApiContract.Proofs.Http.Table
import ApiContract.Proofs.Routing.Served
import ApiContract.Proofs.Http.Spelling
import ApiContract.Proofs.Http.Target
import ApiContract.Proofs.Http.Building
import ApiContract.Proofs.Text.Numeral
import ApiContract.Proofs.Conformance.Payload
import ApiContract.Proofs.Logging.Entries
import ApiContract.Proofs.Command.Outcome
import ApiContract.Proofs.Conformance.Bare
