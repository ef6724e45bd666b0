import FacetedSearch.Main
import FacetedSearch.Wire
import FacetedSearch.Proofs.Clause.Reread
import FacetedSearch.Proofs.Json.Proper
import FacetedSearch.Clause.Tree
import FacetedSearch.Proofs.Clause.Meaning
import FacetedSearch.Proofs.Compile.Criteria
import FacetedSearch.Proofs.Compile.Meaning
import FacetedSearch.Proofs.Compile.Places
import FacetedSearch.Proofs.Compile.NormalForm
import FacetedSearch.Proofs.Session.Run
import FacetedSearch.Proofs.Session.Stale
import FacetedSearch.Proofs.Config.Merged
import FacetedSearch.Proofs.Config.Siblings
import FacetedSearch.Proofs.Selection.Coherent
import FacetedSearch.Proofs.Text.Fuzzify
import FacetedSearch.Proofs.Clause.Same
import FacetedSearch.Proofs.Recover.Walk
import FacetedSearch.Proofs.Recover.Order
import FacetedSearch.Proofs.Recover.Replay
import FacetedSearch.Proofs.Recover.Rebuild
import FacetedSearch.Proofs.Recover.RoundTrip
import FacetedSearch.Proofs.Clause.Graft
import FacetedSearch.Proofs.Compile.Entailment
import FacetedSearch.Proofs.Recover.SameRecords
import FacetedSearch.Proofs.Toml.Tidy
import FacetedSearch.Proofs.Selection.Unchanged
import FacetedSearch.Proofs.Selection.Rewound
import FacetedSearch.Proofs.Recover.Page
import FacetedSearch.Proofs.Compile.SameQuery
import FacetedSearch.Proofs.View.Values
import FacetedSearch.Proofs.View.Rounds
import FacetedSearch.Proofs.View.Nodes
import FacetedSearch.Proofs.Session.Accepted
import FacetedSearch.Proofs.Session.Carry
import FacetedSearch.Proofs.Session.LastPage
import FacetedSearch.Proofs.Selection.ChoiceMap
import FacetedSearch.Proofs.Selection.Choices
import FacetedSearch.Proofs.Clause.Respelled
import FacetedSearch.Proofs.Session.Clean
import FacetedSearch.Proofs.Session.Displayed
import FacetedSearch.Proofs.Config.Precedence
import FacetedSearch.Proofs.Json.Legible
import FacetedSearch.Proofs.Recover.Shared
import FacetedSearch.Proofs.Selection.Reports
import FacetedSearch.Proofs.Selection.Frame
import FacetedSearch.Proofs.Selection.Signature
import FacetedSearch.Proofs.Config.Malformed
import FacetedSearch.Proofs.Config.Layered
import FacetedSearch.Proofs.Selection.Branches
import FacetedSearch.Proofs.View.Rollup
import FacetedSearch.Proofs.View.Preorder
import FacetedSearch.Proofs.View.Rearranged
import FacetedSearch.Proofs.Session.Rearranged
import FacetedSearch.Proofs.Session.Paging
import FacetedSearch.Proofs.Config.Prefixes
import FacetedSearch.Proofs.Json.Merging
import FacetedSearch.Proofs.Compile.Requests
import FacetedSearch.Proofs.Text.Reading
import FacetedSearch.Proofs.Text.Utf8
import FacetedSearch.Proofs.Text.Visible
import FacetedSearch.Proofs.Url.Form
import FacetedSearch.Proofs.Url.Parsed
import FacetedSearch.Proofs.Url.Links
import FacetedSearch.Proofs.View.Refreshed
import FacetedSearch.Proofs.Debounce.Firings
import FacetedSearch.Proofs.Debounce.Quiet
import FacetedSearch.Proofs.CommandLine.FlagState
import FacetedSearch.Proofs.Toml.Strings
import FacetedSearch.Proofs.Toml.Document
import FacetedSearch.Proofs.Config.Printed
import FacetedSearch.Proofs.Recover.Fragments
import FacetedSearch.Proofs.Text.Words
import FacetedSearch.Proofs.Text.Ancestors
import FacetedSearch.Proofs.Config.Discovered
import FacetedSearch.Proofs.Compile.Declared
import FacetedSearch.Proofs.Recover.Legible
