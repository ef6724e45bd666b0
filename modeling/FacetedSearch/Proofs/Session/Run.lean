import FacetedSearch.Session

/-!
# Runs of a session

A run of a session carries out commands, begins searches and hands in outcomes, in any order: a ticket may be
completed late, more than once, or never.  A history is a session with all the tickets it has issued and all the
outcomes it has accepted.

* `dispatch_cases`: all that carrying out a command can do.
* `state_dispatchAll`: the state after several commands.
* `complete_stale`, `complete_newest`: completing a ticket of another generation and of the current one.
* `Run`: the histories that a new session can have.
* `Reached`: the histories of sessions that start new or from a link; `Reached.run`: a link adds none.
-/

namespace FacetedSearch

/-- The status in which an accepted outcome leaves a session. -/
def Outcome.status : Outcome → SearchStatus
  | .ok _ => .ready
  | .error e => .failed e.message

namespace Session

/-! ### What carrying out a command can do -/

/-- An order change, a refused move to the next page, or a change of the state. -/
theorem dispatch_cases (s : Session) (cmd : Command) :
    (∃ i, cmd = .cycleFacetOrder i ∧ s.dispatch cmd = s.cycleOrder i) ∨
      (cmd = .nextPage ∧ s.onLastPage = true ∧ s.dispatch cmd = s) ∨
        (∀ i, cmd ≠ .cycleFacetOrder i) ∧ s.dispatch cmd = s.change cmd := by
  cases cmd with
  | cycleFacetOrder i => exact Or.inl ⟨i, rfl, rfl⟩
  | nextPage =>
    cases hlast : s.onLastPage with
    | true => exact Or.inr (Or.inl ⟨rfl, rfl, by rw [dispatch, hlast]; rfl⟩)
    | false => exact Or.inr (Or.inr ⟨nofun, by rw [dispatch, hlast]; rfl⟩)
  | _ => exact Or.inr (Or.inr ⟨nofun, rfl⟩)

/-- An order change keeps all but the order of one facet and the views. -/
theorem cycleOrder_eq (s : Session) (i : Nat) :
    ∃ facets views, s.cycleOrder i = { s with config := { s.config with facets }, views } := by
  rw [cycleOrder]
  cases s.config.facets[i]? with
  | none => exact ⟨s.config.facets, s.views, rfl⟩
  | some f => exact ⟨_, _, rfl⟩

/-- A change of the state keeps all but the state and the two flags. -/
theorem change_eq (s : Session) (cmd : Command) :
    ∃ dirty keepsZeros, s.change cmd = { s with state := (s.config.apply s.state cmd).1, dirty, keepsZeros } := by
  simp only [change]
  split
  · exact ⟨_, _, rfl⟩
  · exact ⟨s.dirty, s.keepsZeros, rfl⟩

/-- Commands leave the search cycle alone: the generation, the status, the results, and how results are shown. -/
theorem dispatch_frame (s : Session) (cmd : Command) :
    (s.dispatch cmd).generation = s.generation ∧ (s.dispatch cmd).status = s.status ∧
      (s.dispatch cmd).results = s.results ∧ (s.dispatch cmd).config.results = s.config.results := by
  rcases dispatch_cases s cmd with ⟨i, -, h⟩ | ⟨-, -, h⟩ | ⟨-, h⟩
  · obtain ⟨facets, views, hcycle⟩ := cycleOrder_eq s i
    rw [h, hcycle]
    exact ⟨rfl, rfl, rfl, rfl⟩
  · rw [h]
    exact ⟨rfl, rfl, rfl, rfl⟩
  · obtain ⟨dirty, keepsZeros, hchange⟩ := change_eq s cmd
    rw [h, hchange]
    exact ⟨rfl, rfl, rfl, rfl⟩

/-- Commands other than those to the next page and to another order are carried out on the state. -/
theorem state_dispatchAll (s : Session) {cmds : List Command}
    (h : ∀ cmd ∈ cmds, cmd ≠ .nextPage ∧ ∀ i, cmd ≠ .cycleFacetOrder i) :
    (s.dispatchAll cmds).state = s.config.run s.state cmds := by
  induction cmds generalizing s with
  | nil => rfl
  | cons cmd cmds ih =>
    have hstep : s.dispatch cmd = s.change cmd := by
      rcases dispatch_cases s cmd with ⟨i, hcycle, -⟩ | ⟨hnext, -⟩ | ⟨-, hchange⟩
      · exact absurd hcycle ((h cmd (List.mem_cons_self ..)).2 i)
      · exact absurd hnext (h cmd (List.mem_cons_self ..)).1
      · exact hchange
    obtain ⟨dirty, keepsZeros, hchange⟩ := change_eq s cmd
    have hrest := ih (s.dispatch cmd) fun d hd => h d (List.mem_cons_of_mem _ hd)
    rw [hstep, hchange] at hrest
    show ((s.dispatch cmd).dispatchAll cmds).state = _
    rw [hstep, hchange]
    exact hrest

/-! ### Completing a ticket -/

theorem complete_stale {s : Session} {t : Ticket} (h : t.generation ≠ s.generation) (o : Outcome) :
    s.complete t o = (s, false) := by
  unfold complete
  rw [if_pos h]

theorem complete_ok {s : Session} {t : Ticket} (h : t.generation = s.generation) (r : Response) :
    s.complete t (.ok r) =
      ({ s with
        results := some (s.config.reduce r t.page)
        views := s.config.aggregate (s.config.reduce r t.page).facets s.state (if s.keepsZeros then s.views else [])
        keepsZeros := true
        status := .ready }, true) := by
  unfold complete
  rw [if_neg (not_not_intro h)]

theorem complete_error {s : Session} {t : Ticket} (h : t.generation = s.generation) (e : SearchFault) :
    s.complete t (.error e) = ({ s with status := .failed e.message }, true) := by
  unfold complete
  rw [if_neg (not_not_intro h)]

/-- An outcome of the current generation is accepted, and the status tells how it ended. -/
theorem complete_newest {s : Session} {t : Ticket} (h : t.generation = s.generation) (o : Outcome) :
    (s.complete t o).2 = true ∧ (s.complete t o).1.generation = s.generation ∧
      (s.complete t o).1.status = o.status ∧ (s.complete t o).1.config = s.config := by
  cases o with
  | ok r =>
    rw [complete_ok h]
    exact ⟨rfl, rfl, rfl, rfl⟩
  | error e =>
    rw [complete_error h]
    exact ⟨rfl, rfl, rfl, rfl⟩

end Session

/-! ### Histories -/

/-- A session, the tickets it has issued and the outcomes it has accepted with their tickets, the newest first. -/
structure History where
  session : Session
  issued : List Ticket := []
  accepted : List (Ticket × Outcome) := []

namespace History

/-- Carries out a command. -/
def dispatch (h : History) (cmd : Command) : History := { h with session := h.session.dispatch cmd }

/-- Begins a search. -/
def beginSearch (h : History) : History :=
  { h with session := h.session.beginSearch.1, issued := h.session.beginSearch.2 :: h.issued }

/-- Hands in the outcome of a ticket. -/
def complete (h : History) (t : Ticket) (o : Outcome) : History :=
  { h with
    session := (h.session.complete t o).1
    accepted := if (h.session.complete t o).2 then (t, o) :: h.accepted else h.accepted }

theorem complete_stale {h : History} {t : Ticket} (hgen : t.generation ≠ h.session.generation) (o : Outcome) :
    h.complete t o = h := by
  simp only [complete, Session.complete_stale hgen]
  rfl

end History

/-- The histories of a session that starts new; outcomes come in for tickets that were issued. -/
inductive Run (c : Config) : History → Prop
  | start : Run c { session := .new c }
  | dispatch {h : History} (hrun : Run c h) (cmd : Command) : Run c (h.dispatch cmd)
  | beginSearch {h : History} (hrun : Run c h) : Run c h.beginSearch
  | complete {h : History} (hrun : Run c h) {t : Ticket} (ht : t ∈ h.issued) (o : Outcome) : Run c (h.complete t o)

/-- The histories of a session that starts new or from a link. -/
inductive Reached (c : Config) : History → Prop
  | new : Reached c { session := .new c }
  | opened (input : String) : Reached c { session := .opened c input }
  | dispatch {h : History} (hreached : Reached c h) (cmd : Command) : Reached c (h.dispatch cmd)
  | beginSearch {h : History} (hreached : Reached c h) : Reached c h.beginSearch
  | complete {h : History} (hreached : Reached c h) {t : Ticket} (ht : t ∈ h.issued) (o : Outcome) :
    Reached c (h.complete t o)

theorem run_dispatchAll {c : Config} {h : History} (hrun : Run c h) (cmds : List Command) :
    Run c { h with session := h.session.dispatchAll cmds } := by
  induction cmds generalizing h with
  | nil => exact hrun
  | cons cmd cmds ih => exact ih (hrun.dispatch cmd)

/-- Opening a link carries out the commands of its document, so it leads nowhere that commands do not. -/
theorem Reached.run {c : Config} {h : History} (hreached : Reached c h) : Run c h := by
  induction hreached with
  | new => exact .start
  | opened input =>
    rw [Session.opened]
    split
    · exact run_dispatchAll .start _
    · exact .start
  | dispatch _ cmd ih => exact ih.dispatch cmd
  | beginSearch _ ih => exact ih.beginSearch
  | complete _ ht o ih => exact ih.complete ht o

end FacetedSearch
