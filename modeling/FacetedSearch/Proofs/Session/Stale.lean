import FacetedSearch.Proofs.Session.Run

/-!
# Stale outcomes

A session counts its searches, and a ticket carries the count at which it was issued.  Only the newest ticket carries
the current count, so an outcome is accepted for this ticket alone, and what is shown comes from the outcome that was
accepted last.

* `Current`: the invariant, which ties the generation, the status and the results of a session to its history.
* `run_current`: it holds after every run.
* `run_shows_last_accepted`: stale outcomes never show.
-/

namespace FacetedSearch

namespace Config

/-- How results are shown depends on the result settings alone. -/
theorem reduce_congr {c d : Config} (h : c.results = d.results) (r : Response) (p : Page) :
    c.reduce r p = d.reduce r p := by
  have hproject : c.project = d.project := by
    funext hit
    simp only [project, h]
  rw [reduce, reduce, hproject]

end Config

namespace History

/-- The last response that was accepted, with its ticket. -/
def lastResponse? (h : History) : Option (Ticket × Response) :=
  h.accepted.findSome? fun
    | (t, .ok r) => some (t, r)
    | (_, .error _) => none

/-- The status that a history leads to. -/
def shownStatus (h : History) : SearchStatus :=
  match h.issued, h.accepted with
  | [], _ => .idle
  | _ :: _, [] => .pending
  | _ :: _, (t, o) :: _ => if t.generation = h.session.generation then o.status else .pending

end History

/-- The generations of the tickets grow up to that of the session, accepted outcomes came in the order of their
tickets, and results and status are those of the last accepted outcomes. -/
structure Current (c : Config) (h : History) : Prop where
  settings : h.session.config.results = c.results
  growing : h.issued.Pairwise fun later earlier => earlier.generation < later.generation
  newest : ∀ t, h.issued.head? = some t → t.generation = h.session.generation
  known : ∀ x ∈ h.accepted, x.1 ∈ h.issued
  ordered : h.accepted.Pairwise fun later earlier => earlier.1.generation ≤ later.1.generation
  results : h.session.results = h.lastResponse?.map fun (t, r) => c.reduce r t.page
  status : h.session.status = h.shownStatus

namespace Current

variable {c : Config} {h : History}

/-- No ticket is of a later generation than the session. -/
theorem bounded (hcur : Current c h) {t : Ticket} (ht : t ∈ h.issued) : t.generation ≤ h.session.generation := by
  obtain ⟨session, issued, accepted⟩ := h
  cases issued with
  | nil => cases ht
  | cons u us =>
    have hu : u.generation = session.generation := hcur.newest u rfl
    rcases List.mem_cons.1 ht with rfl | htail
    · exact Nat.le_of_eq hu
    · have hlt := (List.pairwise_cons.1 hcur.growing).1 t htail
      show t.generation ≤ session.generation
      omega

/-- The ticket of the current generation is the newest one. -/
theorem head?_eq_some_iff (hcur : Current c h) {t : Ticket} (ht : t ∈ h.issued) :
    h.issued.head? = some t ↔ t.generation = h.session.generation := by
  refine ⟨hcur.newest t, fun hgen => ?_⟩
  obtain ⟨session, issued, accepted⟩ := h
  cases issued with
  | nil => cases ht
  | cons u us =>
    rcases List.mem_cons.1 ht with rfl | htail
    · rfl
    · have hlt := (List.pairwise_cons.1 hcur.growing).1 t htail
      have hu : u.generation = session.generation := hcur.newest u rfl
      have hgen : t.generation = session.generation := hgen
      omega

/-! ### Every step keeps the invariant -/

theorem start (c : Config) : Current c { session := .new c } where
  settings := rfl
  growing := .nil
  newest := nofun
  known := nofun
  ordered := .nil
  results := rfl
  status := rfl

theorem dispatch (hcur : Current c h) (cmd : Command) : Current c (h.dispatch cmd) := by
  obtain ⟨hgen, hstatus, hresults, hsettings⟩ := Session.dispatch_frame h.session cmd
  have hshown : (h.dispatch cmd).shownStatus = h.shownStatus := by
    simp only [History.shownStatus, History.dispatch, hgen]
  exact {
    settings := hsettings.trans hcur.settings
    growing := hcur.growing
    newest := fun t ht => (hcur.newest t ht).trans hgen.symm
    known := hcur.known
    ordered := hcur.ordered
    results := hresults.trans hcur.results
    status := hstatus.trans (hcur.status.trans hshown.symm) }

theorem beginSearch (hcur : Current c h) : Current c h.beginSearch := by
  have hpending : h.beginSearch.shownStatus = .pending := by
    obtain ⟨session, issued, accepted⟩ := h
    cases accepted with
    | nil => rfl
    | cons x xs =>
      -- no outcome is accepted yet for the ticket that was just issued
      have hold := hcur.bounded (hcur.known x (List.mem_cons_self ..))
      have hne : x.1.generation ≠ session.generation + 1 := by
        have : x.1.generation ≤ session.generation := hold
        omega
      exact if_neg hne
  exact {
    settings := hcur.settings
    growing := List.pairwise_cons.2 ⟨fun t ht => Nat.lt_succ_of_le (hcur.bounded ht), hcur.growing⟩
    newest := by
      intro t ht
      cases ht
      rfl
    known := fun x hx => List.mem_cons_of_mem _ (hcur.known x hx)
    ordered := hcur.ordered
    results := hcur.results
    status := hpending.symm }

private theorem accepted_complete {t : Ticket} (hgen : t.generation = h.session.generation) (o : Outcome) :
    (h.complete t o).accepted = (t, o) :: h.accepted := by
  simp only [History.complete, (Session.complete_newest hgen o).1, if_true]

/-- A response is reduced on the page of its ticket, and a failure leaves the last response shown. -/
private theorem results_complete (hcur : Current c h) {t : Ticket} (hgen : t.generation = h.session.generation)
    (o : Outcome) : (h.complete t o).session.results =
      (h.complete t o).lastResponse?.map fun (t, r) => c.reduce r t.page := by
  rw [History.lastResponse?, accepted_complete hgen]
  cases o with
  | ok r =>
    rw [List.findSome?_cons]
    simp only [History.complete, Session.complete_ok hgen, Option.map_some]
    rw [Config.reduce_congr hcur.settings]
  | error e =>
    rw [List.findSome?_cons]
    simp only [History.complete, Session.complete_error hgen]
    exact hcur.results

private theorem shownStatus_complete {t : Ticket} (ht : t ∈ h.issued) (hgen : t.generation = h.session.generation)
    (o : Outcome) : (h.complete t o).shownStatus = o.status := by
  have hissued : (h.complete t o).issued ≠ [] := List.ne_nil_of_mem ht
  rw [History.shownStatus, accepted_complete hgen]
  split
  · contradiction
  · contradiction
  · rename_i heq
    cases heq
    exact if_pos (hgen.trans (Session.complete_newest hgen o).2.1.symm)

theorem complete (hcur : Current c h) {t : Ticket} (ht : t ∈ h.issued) (o : Outcome) :
    Current c (h.complete t o) := by
  by_cases hgen : t.generation = h.session.generation
  · obtain ⟨-, hsame, hstatus, hconfig⟩ := Session.complete_newest hgen o
    exact {
      settings := (congrArg Config.results hconfig).trans hcur.settings
      growing := hcur.growing
      newest := fun u hu => (hcur.newest u hu).trans hsame.symm
      known := by
        rw [accepted_complete hgen]
        intro x hx
        rcases List.mem_cons.1 hx with rfl | hx
        · exact ht
        · exact hcur.known x hx
      ordered := by
        -- no ticket is newer than this one
        rw [accepted_complete hgen]
        refine List.pairwise_cons.2 ⟨fun x hx => ?_, hcur.ordered⟩
        rw [hgen]
        exact hcur.bounded (hcur.known x hx)
      results := hcur.results_complete hgen o
      status := hstatus.trans (shownStatus_complete ht hgen o).symm }
  · rw [History.complete_stale hgen]
    exact hcur

end Current

/-- Every run keeps the invariant. -/
theorem run_current {c : Config} {h : History} (hrun : Run c h) : Current c h := by
  induction hrun with
  | start => exact .start c
  | dispatch _ cmd ih => exact ih.dispatch cmd
  | beginSearch _ ih => exact ih.beginSearch
  | complete _ ht o ih => exact ih.complete ht o

/-! ### What is shown -/

namespace Current

variable {c : Config} {h : History}

private theorem status_ne (o : Outcome) : o.status ≠ .idle ∧ o.status ≠ .pending := by
  cases o <;> exact ⟨nofun, nofun⟩

theorem status_idle_iff (hcur : Current c h) : h.session.status = .idle ↔ h.issued = [] := by
  rw [hcur.status, History.shownStatus]
  split
  · rename_i hnone
    exact ⟨fun _ => hnone, fun _ => rfl⟩
  · rename_i heq _
    rw [heq]
    exact ⟨nofun, nofun⟩
  · rename_i o _ heq _
    rw [heq]
    refine ⟨fun hidle => ?_, nofun⟩
    split at hidle
    · exact absurd hidle (status_ne o).1
    · cases hidle

/-- An outcome that was accepted for the newest ticket: the last one accepted is for this ticket too, and is
shown. -/
theorem status_of_answered (hcur : Current c h) {t : Ticket} {o : Outcome} (ht : h.issued.head? = some t)
    (ho : (t, o) ∈ h.accepted) : ∃ last, h.accepted.head? = some (t, last) ∧ h.session.status = last.status := by
  obtain ⟨session, issued, accepted⟩ := h
  have hgen : t.generation = session.generation := hcur.newest t ht
  cases accepted with
  | nil => cases ho
  | cons x xs =>
    obtain ⟨u, last⟩ := x
    have hu : u ∈ issued := hcur.known (u, last) (List.mem_cons_self ..)
    have hugen : u.generation = session.generation := by
      have hle : u.generation ≤ session.generation := hcur.bounded hu
      rcases List.mem_cons.1 ho with heq | htail
      · cases heq
        exact hgen
      · have hge := (List.pairwise_cons.1 hcur.ordered).1 (t, o) htail
        have hge : t.generation ≤ u.generation := hge
        omega
    have hhead := (hcur.head?_eq_some_iff hu).2 hugen
    have hsame : u = t := Option.some.inj (hhead.symm.trans ht)
    refine ⟨last, by rw [hsame]; rfl, ?_⟩
    cases issued with
    | nil => cases hu
    | cons _ _ => exact hcur.status.trans (if_pos hugen)

theorem status_pending_iff (hcur : Current c h) :
    h.session.status = .pending ↔ ∃ t, h.issued.head? = some t ∧ ∀ o, (t, o) ∉ h.accepted := by
  constructor
  · intro hpending
    cases hissued : h.issued with
    | nil =>
      have hidle := hcur.status_idle_iff.2 hissued
      rw [hpending] at hidle
      cases hidle
    | cons t ts =>
      refine ⟨t, rfl, fun o ho => ?_⟩
      obtain ⟨last, -, hstatus⟩ := hcur.status_of_answered (by rw [hissued]; rfl) ho
      exact (status_ne last).2 (hstatus.symm.trans hpending)
  · rintro ⟨t, ht, hnone⟩
    rw [hcur.status, History.shownStatus]
    split
    · rename_i heq
      rw [heq] at ht
      cases ht
    · rfl
    · rename_i u o us heq hacc
      refine if_neg fun hgen => hnone o ?_
      -- the last accepted outcome would be for the newest ticket
      have hu : u ∈ h.issued := hcur.known (u, o) (by rw [hacc]; exact List.mem_cons_self ..)
      have hsame : u = t := Option.some.inj (((hcur.head?_eq_some_iff hu).2 hgen).symm.trans ht)
      rw [hacc, hsame]
      exact List.mem_cons_self ..

end Current

/-- Stale outcomes never show.  After every run: the newest ticket alone is accepted, any other changes nothing; a
failure changes the status alone; the results are those of the last accepted response, on the page of its ticket;
accepted outcomes are in the order of their tickets; and the status tells whether nothing was asked, the newest ticket
waits, or how its last accepted outcome ended.  Offsets and their sums are taken to be 64-bit numbers. -/
theorem run_shows_last_accepted (c : Config) (h : History) (hrun : Run c h) :
    (∀ t ∈ h.issued, ∀ o,
      (h.issued.head? = some t → (h.session.complete t o).2 = true) ∧
        (h.issued.head? ≠ some t → h.session.complete t o = (h.session, false))) ∧
    (∀ t, h.issued.head? = some t → ∀ e,
      h.session.complete t (.error e) = ({ h.session with status := .failed e.message }, true)) ∧
    (h.session.results = h.lastResponse?.map fun (t, r) => c.reduce r t.page) ∧
    (h.accepted.Pairwise fun later earlier => earlier.1.generation ≤ later.1.generation) ∧
    (h.session.status = .idle ↔ h.issued = []) ∧
    (h.session.status = .pending ↔ ∃ t, h.issued.head? = some t ∧ ∀ o, (t, o) ∉ h.accepted) ∧
    (∀ t o, h.issued.head? = some t → (t, o) ∈ h.accepted →
      ∃ last, h.accepted.head? = some (t, last) ∧ h.session.status = last.status) := by
  have hcur := run_current hrun
  refine ⟨fun t ht o => ⟨fun hnew => ?_, fun hold => ?_⟩, fun t ht e => ?_, hcur.results, hcur.ordered,
    hcur.status_idle_iff, hcur.status_pending_iff, fun t o ht ho => hcur.status_of_answered ht ho⟩
  · exact (Session.complete_newest (hcur.newest t hnew) o).1
  · exact Session.complete_stale (fun hgen => hold ((hcur.head?_eq_some_iff ht).2 hgen)) o
  · exact Session.complete_error (hcur.newest t ht) e

/-- A search is answered, the text is changed, and another search begins: it waits, the first answer is still shown,
and a second answer to the first ticket is refused. -/
theorem answered_then_changed :
    ∃ (h : History) (t u : Ticket), Run {} h ∧ h.issued = [u, t] ∧ h.session.status = .pending ∧
      h.session.results = some (Config.reduce {} {} {}) ∧ ∀ o, h.session.complete t o = (h.session, false) := by
  let first : History := History.beginSearch { session := .new {} }
  let t := (Session.new {}).beginSearch.2
  let h := ((first.complete t (.ok {})).dispatch (.setFreeText "storm")).beginSearch
  have hrun : Run {} h :=
    .beginSearch
      (.dispatch (.complete (.beginSearch .start) (List.mem_singleton.2 rfl) (.ok {})) (.setFreeText "storm"))
  obtain ⟨hcomplete, -, hresults, -, -, hpending, -⟩ := run_shows_last_accepted {} h hrun
  have hold : h.issued.head? ≠ some t := by
    intro heq
    have hgen := congrArg (Option.map Ticket.generation) heq
    exact absurd hgen (by decide)
  refine ⟨h, t, _, hrun, rfl, rfl, hresults.trans rfl, fun o => (hcomplete t ?_ o).2 hold⟩
  exact List.mem_cons_of_mem _ (List.mem_singleton.2 rfl)

end FacetedSearch
