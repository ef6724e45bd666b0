import FacetedSearch.Proofs.Compile.SameQuery
import FacetedSearch.Proofs.Session.Stale

/-!
# Responses that were accepted

A response is accepted at some point of a run, and what it brought is shown until the next one.  Two queries belong to
it: the one that its ticket asked, and the one of the state in which it was accepted.  A session compares neither of
them with the query that it has later; it keeps a flag, which a change of the selection takes back.

* `Leads`, `Accepted`: one point of a run comes after another one, and the response that was accepted there.
* `Present`: a response that was accepted when the state had the query that it has now.
* `query_dispatch`: as long as a command leaves the flag up, it keeps the query.
* `run_last_present`: while the flag is up, the last accepted response is present.
-/

namespace FacetedSearch

namespace Session

theorem complete_snd_iff {s : Session} {t : Ticket} {o : Outcome} :
    (s.complete t o).2 = true ↔ t.generation = s.generation := by
  by_cases hgen : t.generation = s.generation
  · exact iff_of_true (complete_newest hgen o).1 hgen
  · rw [complete_stale hgen]
    exact iff_of_false Bool.false_ne_true hgen

/-- An order change gives one facet another order, and leaves the state and the flag as they are. -/
theorem cycleOrder_frame (s : Session) (i : Nat) :
    s.config.Reordered (s.cycleOrder i).config ∧ (s.cycleOrder i).state = s.state ∧
      (s.cycleOrder i).keepsZeros = s.keepsZeros := by
  rw [cycleOrder]
  cases hf : s.config.facets[i]? with
  | none => exact ⟨.refl _, rfl, rfl⟩
  | some f => exact ⟨.set hf _, rfl, rfl⟩

theorem reordered_dispatch (s : Session) (cmd : Command) : s.config.Reordered (s.dispatch cmd).config := by
  rcases dispatch_cases s cmd with ⟨i, -, h⟩ | ⟨-, -, h⟩ | ⟨-, h⟩
  · rw [h]
    exact (cycleOrder_frame s i).1
  · rw [h]
    exact .refl _
  · obtain ⟨dirty, keepsZeros, hchange⟩ := change_eq s cmd
    rw [h, hchange]
    exact .refl _

/-- A command that leaves the flag up keeps the query, and the flag was up before. -/
theorem query_dispatch {s : Session} {cmd : Command} (hkeeps : (s.dispatch cmd).keepsZeros = true) :
    s.keepsZeros = true ∧ (s.dispatch cmd).compile.query = s.compile.query := by
  rcases dispatch_cases s cmd with ⟨i, -, h⟩ | ⟨-, -, h⟩ | ⟨-, h⟩
  · obtain ⟨hreordered, hstate, hflag⟩ := cycleOrder_frame s i
    rw [h] at hkeeps ⊢
    refine ⟨hflag ▸ hkeeps, ?_⟩
    show (s.cycleOrder i).config.compileQuery (s.cycleOrder i).state = s.config.compileQuery s.state
    rw [hreordered.compileQuery_eq, hstate]
  · rw [h] at hkeeps ⊢
    exact ⟨hkeeps, rfl⟩
  · rw [h] at hkeeps ⊢
    obtain ⟨hbefore, hkind⟩ : s.keepsZeros = true ∧
        ((s.config.apply s.state cmd).2 = true → cmd.changesSelection = false) := by
      simp only [change] at hkeeps
      split at hkeeps
      · obtain ⟨hbefore, hkind⟩ := Bool.and_eq_true_iff.1 hkeeps
        exact ⟨hbefore, fun _ => by simpa using hkind⟩
      · rename_i hsame
        exact ⟨hkeeps, fun hchanged => absurd hchanged hsame⟩
    obtain ⟨dirty, keepsZeros, hchange⟩ := change_eq s cmd
    rw [hchange]
    exact ⟨hbefore, Config.compileQuery_apply hkind⟩

end Session

namespace History

/-- The query of the current state. -/
def query (h : History) : Clause := h.session.compile.query

theorem query_complete (h : History) (t : Ticket) (o : Outcome) : (h.complete t o).query = h.query := by
  by_cases hgen : t.generation = h.session.generation
  · cases o with
    | ok r => simp only [query, complete, Session.complete_ok hgen, Session.compile]
    | error e => simp only [query, complete, Session.complete_error hgen, Session.compile]
  · rw [complete_stale hgen]

/-- The first history goes on to the second one. -/
inductive Leads : History → History → Prop
  | refl (h : History) : Leads h h
  | dispatch {g h : History} (hleads : Leads g h) (cmd : Command) : Leads g (h.dispatch cmd)
  | beginSearch {g h : History} (hleads : Leads g h) : Leads g h.beginSearch
  | complete {g h : History} (hleads : Leads g h) {t : Ticket} (ht : t ∈ h.issued) (o : Outcome) :
    Leads g (h.complete t o)

/-- What was accepted stays in the history. -/
theorem Leads.mem_accepted {g h : History} (hleads : Leads g h) {x : Ticket × Outcome} (hx : x ∈ g.accepted) :
    x ∈ h.accepted := by
  induction hleads with
  | refl => exact hx
  | dispatch _ _ ih => exact ih
  | beginSearch _ ih => exact ih
  | complete _ _ _ ih =>
    simp only [History.complete]
    split
    · exact List.mem_cons_of_mem _ ih
    · exact ih

end History

/-- A run came to the first history, there the response for a ticket was accepted, and the run went on to the second
history. -/
structure Accepted (c : Config) (g : History) (t : Ticket) (r : Response) (h : History) : Prop where
  run : Run c g
  issued : t ∈ g.issued
  accepts : (g.session.complete t (.ok r)).2 = true
  leads : (g.complete t (.ok r)).Leads h

namespace Accepted

variable {c : Config} {g h : History} {t : Ticket} {r : Response}

theorem mem (hacc : Accepted c g t r h) : (t, .ok r) ∈ h.accepted := by
  refine hacc.leads.mem_accepted ?_
  simp only [History.complete, hacc.accepts, if_true]
  exact List.mem_cons_self ..

theorem dispatch (hacc : Accepted c g t r h) (cmd : Command) : Accepted c g t r (h.dispatch cmd) :=
  { hacc with leads := hacc.leads.dispatch cmd }

theorem beginSearch (hacc : Accepted c g t r h) : Accepted c g t r h.beginSearch :=
  { hacc with leads := hacc.leads.beginSearch }

theorem complete (hacc : Accepted c g t r h) {u : Ticket} (hu : u ∈ h.issued) (o : Outcome) :
    Accepted c g t r (h.complete u o) :=
  { hacc with leads := hacc.leads.complete hu o }

end Accepted

/-- A response was accepted when the state had the query that it has now. -/
def Present (c : Config) (h : History) (t : Ticket) (r : Response) : Prop :=
  ∃ g, Accepted c g t r h ∧ g.query = h.query

namespace Present

variable {c : Config} {h : History} {t : Ticket} {r : Response}

theorem dispatch (hpresent : Present c h t r) {cmd : Command}
    (hkeeps : (h.dispatch cmd).session.keepsZeros = true) : Present c (h.dispatch cmd) t r := by
  obtain ⟨g, hacc, hquery⟩ := hpresent
  exact ⟨g, hacc.dispatch cmd, hquery.trans (Session.query_dispatch hkeeps).2.symm⟩

theorem beginSearch (hpresent : Present c h t r) : Present c h.beginSearch t r := by
  obtain ⟨g, hacc, hquery⟩ := hpresent
  exact ⟨g, hacc.beginSearch, hquery⟩

theorem complete (hpresent : Present c h t r) {u : Ticket} (hu : u ∈ h.issued) (o : Outcome) :
    Present c (h.complete u o) t r := by
  obtain ⟨g, hacc, hquery⟩ := hpresent
  exact ⟨g, hacc.complete hu o, hquery.trans (h.query_complete u o).symm⟩

/-- A response is present right after it was accepted. -/
theorem of_complete (hrun : Run c h) (ht : t ∈ h.issued) (hgen : t.generation = h.session.generation) :
    Present c (h.complete t (.ok r)) t r :=
  ⟨h, ⟨hrun, ht, Session.complete_snd_iff.2 hgen, .refl _⟩, (h.query_complete t _).symm⟩

end Present

/-! ### Runs -/

theorem run_reordered {c : Config} {h : History} (hrun : Run c h) : c.Reordered h.session.config := by
  induction hrun with
  | start => exact .refl c
  | dispatch _ cmd ih => exact ih.trans (Session.reordered_dispatch _ cmd)
  | beginSearch _ ih => exact ih
  | @complete h _ t _ o ih =>
    by_cases hgen : t.generation = h.session.generation
    · have hconfig : (h.complete t o).session.config = h.session.config :=
        (Session.complete_newest hgen o).2.2.2
      rw [hconfig]
      exact ih
    · rw [History.complete_stale hgen]
      exact ih

/-- While the flag is up, there is a last accepted response, and it is present. -/
theorem run_last_present {c : Config} {h : History} (hrun : Run c h) (hkeeps : h.session.keepsZeros = true) :
    ∃ t r, h.lastResponse? = some (t, r) ∧ Present c h t r := by
  induction hrun with
  | start => cases hkeeps
  | dispatch _ cmd ih =>
    obtain ⟨t, r, hlast, hpresent⟩ := ih (Session.query_dispatch hkeeps).1
    exact ⟨t, r, hlast, hpresent.dispatch hkeeps⟩
  | beginSearch _ ih =>
    obtain ⟨t, r, hlast, hpresent⟩ := ih hkeeps
    exact ⟨t, r, hlast, hpresent.beginSearch⟩
  | @complete h hrun u hu o ih =>
    by_cases hgen : u.generation = h.session.generation
    · cases o with
      | ok r =>
        refine ⟨u, r, ?_, .of_complete hrun hu hgen⟩
        simp only [History.lastResponse?, History.complete, Session.complete_ok hgen, if_true,
          List.findSome?_cons]
      | error e =>
        -- a failure keeps the flag, and it is no response
        simp only [History.complete, Session.complete_error hgen] at hkeeps
        obtain ⟨t, r, hlast, hpresent⟩ := ih hkeeps
        refine ⟨t, r, ?_, hpresent.complete hu _⟩
        simp only [History.lastResponse?, History.complete, Session.complete_error hgen, if_true,
          List.findSome?_cons]
        exact hlast
    · rw [History.complete_stale hgen] at hkeeps ⊢
      exact ih hkeeps

end FacetedSearch
