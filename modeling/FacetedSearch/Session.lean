import FacetedSearch.Debounce
import FacetedSearch.Endpoint
import FacetedSearch.Recover
import FacetedSearch.View

/-!
# Sessions

A session owns a configuration and a state. Searching takes a ticket with the document to send, and handing in the
outcome completes it; only the newest ticket counts, so a late answer never replaces a newer one.

* `Session.opened`: a session from a share link;
* `Session.dispatch`: carries out a command;
* `Session.beginSearch`: issues a ticket;
* `Session.complete`: takes the outcome of a ticket.
-/

namespace FacetedSearch

/-- Where a session is in its search cycle. -/
inductive SearchStatus
  | idle
  | pending
  | ready
  | failed (message : String)
  deriving DecidableEq

/-- A search that waits for its answer. -/
structure Ticket where
  generation : Nat
  document : Document
  page : Page

/-- A configuration, a state, and what the last searches brought. `keepsZeros` says that values of the current views
stay in the next ones, `dirty` that the state changed since the newest ticket. -/
structure Session where
  config : Config
  state : SearchState
  generation : Nat := 0
  status : SearchStatus := .idle
  results : Option Results := none
  views : List FacetView := []
  keepsZeros : Bool := false
  dirty : Bool := true

namespace Session

/-- A session in which nothing is chosen. -/
def new (c : Config) : Session := { config := c, state := c.startState }

/-- The document of the current state. -/
def compile (s : Session) : Document := s.config.compile s.state

/-- Whether the results say that the current page is the last one. Results for other selections or another page say
nothing. -/
def onLastPage (s : Session) : Bool :=
  match s.results with
  | none => false
  | some r =>
    !s.dirty && s.keepsZeros && r.pagination.offset == s.state.page.offset &&
      r.pagination.size == s.state.page.size && !r.pagination.hasNext

/-- Gives a facet its next order and sorts the views anew. -/
def cycleOrder (s : Session) (facet : Nat) : Session :=
  match s.config.facets[facet]? with
  | none => s
  | some f =>
    let config := { s.config with facets := s.config.facets.set facet { f with order := f.order.next } }
    let views := match s.results with
      | some r => config.aggregate r.facets s.state s.views
      | none => s.views
    { s with config, views }

/-- Carries out a command on the state. -/
def change (s : Session) (cmd : Command) : Session :=
  let (state, changed) := s.config.apply s.state cmd
  if changed then
    { s with state, dirty := true, keepsZeros := s.keepsZeros && !cmd.changesSelection }
  else { s with state }

/-- Carries out a command; the next page is refused on the last one. -/
def dispatch (s : Session) : Command → Session
  | .cycleFacetOrder facet => s.cycleOrder facet
  | .nextPage => if s.onLastPage then s else s.change .nextPage
  | cmd => s.change cmd

/-- Carries out commands one after the other. -/
def dispatchAll (s : Session) (cmds : List Command) : Session := cmds.foldl dispatch s

/-- A session that starts with what a link, a query or a document selects; an input without a document selects
nothing. -/
def opened (c : Config) (input : String) : Session :=
  match documentOf input with
  | .ok d => (new c).dispatchAll (c.recoverJson d.toJson)
  | .error _ => new c

/-- The link that carries the current state, on top of an address. -/
def share (s : Session) (base : String) : Except LinkFault Url :=
  shareLink base s.compile s.config.search.shareFacets

/-- The debouncer for searches while a free text is typed. -/
def debouncer (s : Session) (α : Type) : Debouncer α := { delay := s.config.search.delay }

/-- Issues a ticket; earlier ones become stale. -/
def beginSearch (s : Session) : Session × Ticket :=
  let generation := s.generation + 1
  ({ s with generation, status := .pending, dirty := false }, ⟨generation, s.compile, s.state.page⟩)

/-- Takes the outcome of a ticket. A stale ticket changes nothing, and a failure keeps the results and views. -/
def complete (s : Session) (t : Ticket) (o : Outcome) : Session × Bool :=
  if t.generation ≠ s.generation then (s, false)
  else
    match o with
    | .ok r =>
      let results := s.config.reduce r t.page
      let previous := if s.keepsZeros then s.views else []
      let views := s.config.aggregate results.facets s.state previous
      ({ s with results := some results, views, keepsZeros := true, status := .ready }, true)
    | .error e => ({ s with status := .failed e.message }, true)

/-- Runs one search with a backend that answers documents. -/
def search (s : Session) (backend : Document → Outcome) : Session :=
  let (s, t) := s.beginSearch
  (s.complete t (backend t.document)).1

end Session

end FacetedSearch
