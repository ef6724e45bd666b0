import FacetedSearch.Proofs.Session.Accepted

/-!
# When the next page is refused

The next page is refused when the results say that the current page is the last one.  A session trusts its results for
this when the state has not changed since the newest ticket and the flag for carried values is up.  The page that the
results are about is compared as well; the query is not, so the results may be those of a ticket that asked another
query, when its response came in after the selection had changed.

* `onLastPage_iff`: all that the session looks at.
* `state_dispatch_nextPage_iff`: the state stays as it is just when the move is refused.
* `refused_next_page`: what is known of the results then.
* `refused_by_another_query`: a refusal by results for another query.
-/

namespace FacetedSearch

namespace Session

theorem onLastPage_iff {s : Session} :
    s.onLastPage = true ↔ ∃ r, s.results = some r ∧ s.dirty = false ∧ s.keepsZeros = true ∧
      r.pagination.offset = s.state.page.offset ∧ r.pagination.size = s.state.page.size ∧
        r.pagination.hasNext = false := by
  cases hresults : s.results with
  | none => simp [onLastPage, hresults]
  | some r => simp [onLastPage, hresults, and_assoc]

/-- A page of some size is left unless the move is refused. -/
theorem state_dispatch_nextPage_iff {s : Session} (hsize : 0 < s.state.page.size) :
    (s.dispatch .nextPage).state = s.state ↔ s.onLastPage = true := by
  cases hlast : s.onLastPage with
  | true =>
    rw [dispatch, hlast]
    exact iff_of_true rfl rfl
  | false =>
    refine iff_of_false (fun hstate => ?_) Bool.false_ne_true
    have hmoved : (s.dispatch .nextPage).state.page.offset = s.state.page.offset + s.state.page.size := by
      obtain ⟨dirty, keepsZeros, hchange⟩ := change_eq s .nextPage
      rw [dispatch, hlast]
      exact congrArg (·.state.page.offset) hchange
    rw [hstate] at hmoved
    omega

end Session

/-- Where no number overflows, a page without a next one holds all that was found. -/
theorem Pagination.le_of_hasNext_eq_false {p : Page} {found : Nat} (hsize : 0 < p.size)
    (hfits : p.offset + p.size < wordLimit) (hnext : (ofPage p found).hasNext = false) :
    found ≤ p.offset + p.size := by
  have hstop : p.stop = p.offset + p.size := by
    rw [Page.stop]
    omega
  simp only [ofPage, hsize, hstop, decide_true, Bool.true_and, decide_eq_false_iff_not] at hnext
  omega

/-- When the move to the next page leaves the state as it is, there are results; they are those of the last accepted
response on the current page, which shows all that was found; and the state had its present query when this response
was accepted.  So they are results for the present query if the ticket asked the query at which its response was
accepted, and only then. -/
theorem refused_next_page (c : Config) (h : History) (hrun : Run c h) (hsize : 0 < h.session.state.page.size)
    (hfits : h.session.state.page.offset + h.session.state.page.size < wordLimit)
    (hstays : (h.session.dispatch .nextPage).state = h.session.state) :
    ∃ g t r, Accepted c g t r h ∧ h.lastResponse? = some (t, r) ∧ h.session.results = some (c.reduce r t.page) ∧
      t.page = h.session.state.page ∧ r.total ≤ h.session.state.page.offset + h.session.state.page.size ∧
      g.query = h.query ∧ (t.document.query = h.session.compile.query ↔ t.document.query = g.query) := by
  obtain ⟨results, hresults, -, hkeeps, hoffset, hpagesize, hnext⟩ :=
    Session.onLastPage_iff.1 ((Session.state_dispatch_nextPage_iff hsize).1 hstays)
  obtain ⟨t, r, hlast, g, hacc, hquery⟩ := run_last_present hrun hkeeps
  have hreduced : h.session.results = some (c.reduce r t.page) := by
    rw [(run_current hrun).results, hlast]
    rfl
  obtain rfl : results = c.reduce r t.page := Option.some.inj (hresults.symm.trans hreduced)
  have hpage : t.page = h.session.state.page := by
    cases hp : t.page
    cases hq : h.session.state.page
    rw [hp, hq] at hoffset hpagesize
    exact congr (congrArg Page.mk hoffset) hpagesize
  have hfound : r.total ≤ t.page.offset + t.page.size := by
    rw [← hpage] at hsize hfits
    exact Pagination.le_of_hasNext_eq_false hsize hfits hnext
  rw [hpage] at hfound
  refine ⟨g, t, r, hacc, hlast, hreduced, hpage, hfound, hquery, ?_⟩
  rw [hquery]
  exact Iff.rfl

/-- Three records on pages of two: the second page is the last one, and the results are those of its search. -/
theorem refused_on_second_page :
    ∃ h : History, Run { paging := { size := 2 } } h ∧ h.session.state.page = ⟨2, 2⟩ ∧
      (h.session.dispatch .nextPage).state = h.session.state ∧
      ∃ t r, h.lastResponse? = some (t, r) ∧ t.page = ⟨2, 2⟩ ∧ r.total ≤ 4 ∧
        t.document.query = h.session.compile.query := by
  let first : History := History.beginSearch { session := .new { paging := { size := 2 } } }
  let t := (Session.new { paging := { size := 2 } }).beginSearch.2
  let second := ((first.complete t (.ok { total := 3 })).dispatch .nextPage).beginSearch
  let u := ((first.complete t (.ok { total := 3 })).dispatch .nextPage).session.beginSearch.2
  let h := second.complete u (.ok { total := 3 })
  have hrun : Run { paging := { size := 2 } } h :=
    .complete (.beginSearch (.dispatch (.complete (.beginSearch .start) (List.mem_singleton.2 rfl) _) .nextPage))
      (List.mem_cons_self ..) _
  obtain ⟨g, v, r, -, hlast, -, hpage, hfound, hquery, hasked⟩ :=
    refused_next_page _ h hrun (by decide) (by decide) rfl
  have hv : v = u := congrArg Prod.fst (Option.some.inj (hlast.symm.trans rfl) : (v, r) = (u, { total := 3 }))
  refine ⟨h, hrun, rfl, rfl, v, r, hlast, hpage, hfound, hasked.2 ?_⟩
  rw [hquery, hv]
  rfl

/-- A size is selected while the first search is under way, its answer for all sizes is accepted, and another search
begins.  The move to the next page is refused by results for another query than that of the state. -/
theorem refused_by_another_query :
    ∃ h : History, Run { paging := { size := 2 } } h ∧ 0 < h.session.state.page.size ∧
      h.session.state.page.offset + h.session.state.page.size < wordLimit ∧
      (h.session.dispatch .nextPage).state = h.session.state ∧
      ∀ t r, (t, .ok r) ∈ h.accepted → t.document.query ≠ h.session.compile.query := by
  let first : History := History.beginSearch { session := .new { paging := { size := 2 } } }
  let t := (Session.new { paging := { size := 2 } }).beginSearch.2
  let chosen := first.dispatch (.addSelection "size" (.term "S") none)
  let h := (chosen.complete t (.ok { total := 1 })).beginSearch
  have hrun : Run { paging := { size := 2 } } h :=
    .beginSearch (.complete (.dispatch (.beginSearch .start) _) (List.mem_singleton.2 rfl) _)
  refine ⟨h, hrun, by decide, by decide, rfl, fun u r hmem => ?_⟩
  have haccepted : h.accepted = [(t, .ok { total := 1 })] := rfl
  rw [haccepted] at hmem
  cases List.mem_singleton.1 hmem
  have hold : t.document.query = .matchAll := rfl
  have hnew : h.session.compile.query = .must [.term "size" "S"] := rfl
  rw [hold, hnew]
  exact Clause.noConfusion

end FacetedSearch
