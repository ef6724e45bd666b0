import FacetedSearch.Proofs.Session.Accepted
import FacetedSearch.Proofs.View.Values

/-!
# Values that are carried over

When a response is accepted, the values that the views showed before stay in the lists with a count of zero, unless a
change of the selection took the flag back.  The flag is put up by each accepted response, also by one whose ticket was
issued before the selection changed.  So what is carried over belongs to the query that the state had when it was
accepted, and this need not be the query of its ticket.

* `run_values_present`: while the flag is up, all values of the views were listed by present responses.
* `carried_value_of_present_response`: the same for the values that an accepted response leaves in the views.
* `carried_across_change`: a value that stays although no response to the same query listed it.
-/

namespace FacetedSearch

/-- The counts of a response for a field list a value. -/
def Response.Lists (c : Config) (r : Response) (field v : String) : Prop :=
  (((Config.readCounts r.facets).get? field).getD {}).Lists c.search.addUndefined v

/-- A value of a view was listed by a response that is present. -/
def Traced (c : Config) (h : History) (field v : String) : Prop :=
  ∃ t r, Present c h t r ∧ r.Lists c field v

/-- What the views show after a command was listed by the last results or shown before. -/
private theorem shown_after_dispatch {s : Session} {cmd : Command} {view : FacetView}
    (hview : view ∈ (s.dispatch cmd).views) {x : FacetValue} (hx : x ∈ view.values) :
    (∃ r, s.results = some r ∧ ((r.facets.get? view.field).getD {}).Lists s.config.search.addUndefined x.value) ∨
      ∃ old ∈ s.views, old.field = view.field ∧ ∃ y ∈ old.values, y.value = x.value := by
  have hkept : ∀ t : Session, t.views = s.views → view ∈ t.views →
      ∃ old ∈ s.views, old.field = view.field ∧ ∃ y ∈ old.values, y.value = x.value :=
    fun t hviews hmem => ⟨view, hviews ▸ hmem, rfl, x, hx, rfl⟩
  rcases Session.dispatch_cases s cmd with ⟨i, -, h⟩ | ⟨-, -, h⟩ | ⟨-, h⟩
  · rw [h] at hview
    cases hf : s.config.facets[i]? with
    | none =>
      rw [Session.cycleOrder, hf] at hview
      exact Or.inr (hkept s rfl hview)
    | some f =>
      cases hresults : s.results with
      | none =>
        simp only [Session.cycleOrder, hf, hresults] at hview
        exact Or.inr (hkept s rfl hview)
      | some r =>
        -- the views are built anew from the last results
        simp only [Session.cycleOrder, hf, hresults] at hview
        rcases Config.listed_or_carried hview hx with hlisted | ⟨-, hshown⟩
        · exact Or.inl ⟨r, rfl, hlisted⟩
        · exact Or.inr hshown
  · rw [h] at hview
    exact Or.inr (hkept s rfl hview)
  · obtain ⟨dirty, keepsZeros, hchange⟩ := Session.change_eq s cmd
    rw [h, hchange] at hview
    exact Or.inr (hkept s rfl hview)

/-- What the views show after a response was accepted was listed by it, or counts zero and was shown before while the
flag was up. -/
private theorem shown_after_complete {s : Session} {t : Ticket} (hgen : t.generation = s.generation) {r : Response}
    {view : FacetView} (hview : view ∈ (s.complete t (.ok r)).1.views) {x : FacetValue} (hx : x ∈ view.values) :
    (((Config.readCounts r.facets).get? view.field).getD {}).Lists s.config.search.addUndefined x.value ∨
      (x.count = 0 ∧ s.keepsZeros = true ∧
        ∃ old ∈ s.views, old.field = view.field ∧ ∃ y ∈ old.values, y.value = x.value) := by
  rw [Session.complete_ok hgen] at hview
  rcases Config.listed_or_carried hview hx with hlisted | ⟨hzero, old, hold, hshown⟩
  · exact Or.inl hlisted
  · cases hkeeps : s.keepsZeros with
    | true =>
      rw [hkeeps] at hold
      exact Or.inr ⟨hzero, rfl, old, hold, hshown⟩
    | false =>
      rw [hkeeps] at hold
      cases hold

/-- While the flag is up, every value of the views was listed by a present response. -/
theorem run_values_present {c : Config} {h : History} (hrun : Run c h) (hkeeps : h.session.keepsZeros = true) :
    ∀ view ∈ h.session.views, ∀ x ∈ view.values, Traced c h view.field x.value := by
  induction hrun with
  | start => cases hkeeps
  | @dispatch h hrun cmd ih =>
    have hbefore := (Session.query_dispatch hkeeps).1
    have hsearch : h.session.config.search = c.search := (run_reordered hrun).search_eq
    intro view hview x hx
    rcases shown_after_dispatch hview hx with ⟨results, hresults, hlisted⟩ | ⟨old, hold, hfield, y, hy, hvalue⟩
    · -- the results are those of the last response
      obtain ⟨t, r, hlast, hpresent⟩ := run_last_present hrun hbefore
      have hreduced := (run_current hrun).results
      rw [hresults, hlast] at hreduced
      rw [Option.some.inj hreduced, hsearch] at hlisted
      exact ⟨t, r, hpresent.dispatch hkeeps, hlisted⟩
    · obtain ⟨t, r, hpresent, hlists⟩ := ih hbefore old hold y hy
      rw [hfield, hvalue] at hlists
      exact ⟨t, r, hpresent.dispatch hkeeps, hlists⟩
  | beginSearch _ ih =>
    intro view hview x hx
    obtain ⟨t, r, hpresent, hlists⟩ := ih hkeeps view hview x hx
    exact ⟨t, r, hpresent.beginSearch, hlists⟩
  | @complete h hrun u hu o ih =>
    by_cases hgen : u.generation = h.session.generation
    · cases o with
      | ok r =>
        have hsearch : h.session.config.search = c.search := (run_reordered hrun).search_eq
        intro view hview x hx
        rcases shown_after_complete hgen hview hx with
          hlisted | ⟨-, hbefore, old, hold, hfield, y, hy, hvalue⟩
        · rw [hsearch] at hlisted
          exact ⟨u, r, .of_complete hrun hu hgen, hlisted⟩
        · obtain ⟨t, q, hpresent, hlists⟩ := ih hbefore old hold y hy
          rw [hfield, hvalue] at hlists
          exact ⟨t, q, hpresent.complete hu _, hlists⟩
      | error e =>
        have hsession : (h.complete u (.error e)).session = { h.session with status := .failed e.message } :=
          congrArg Prod.fst (Session.complete_error hgen e)
        rw [hsession] at hkeeps ⊢
        intro view hview x hx
        obtain ⟨t, r, hpresent, hlists⟩ := ih hkeeps view hview x hx
        exact ⟨t, r, hpresent.complete hu _, hlists⟩
    · rw [History.complete_stale hgen] at hkeeps ⊢
      exact ih hkeeps

/-- When a response is accepted, a value of the views that it does not list counts zero, and was listed by a response
that was accepted before, when the state had the query that it has now.  If each response that was accepted under this
query was an answer to it, the value was listed by an earlier answer to the query of the same ticket. -/
theorem carried_value_of_present_response (c : Config) (h : History) (hrun : Run c h) (t : Ticket)
    (ht : t ∈ h.issued) (r : Response) (haccepts : (h.session.complete t (.ok r)).2 = true) :
    ∀ view ∈ (h.session.complete t (.ok r)).1.views, ∀ x ∈ view.values, ¬ r.Lists c view.field x.value →
      x.count = 0 ∧
      (∃ g u q, Accepted c g u q h ∧ g.query = h.query ∧ q.Lists c view.field x.value) ∧
      ((∀ g u q, Accepted c g u q (h.complete t (.ok r)) → g.query = h.query → u.document.query = h.query) →
        ∃ u q, (u, .ok q) ∈ h.accepted ∧ u.document.query = t.document.query ∧ q.Lists c view.field x.value) := by
  have hgen := Session.complete_snd_iff.1 haccepts
  have hsearch := (run_reordered hrun).search_eq
  intro view hview x hx hunlisted
  rcases shown_after_complete hgen hview hx with hlisted | ⟨hzero, hkeeps, old, hold, hfield, y, hy, hvalue⟩
  · rw [hsearch] at hlisted
    exact absurd hlisted hunlisted
  · obtain ⟨u, q, ⟨g, hacc, hquery⟩, hlists⟩ := run_values_present hrun hkeeps old hold y hy
    rw [hfield, hvalue] at hlists
    refine ⟨hzero, ⟨g, u, q, hacc, hquery, hlists⟩, fun hanswers => ⟨u, q, hacc.mem, ?_, hlists⟩⟩
    calc u.document.query = h.query := hanswers g u q (hacc.complete ht _) hquery
      _ = t.document.query := (hanswers h t r ⟨hrun, ht, haccepts, .refl _⟩ rfl).symm

/-! ### A value that stays on the next page, and one that stays after a change -/

/-- A response that counts values of one field. -/
private def counted (field : String) (counts : List (String × Nat)) : Response where
  facets := [(field, .obj [("terms", .arr (counts.map fun (v, n) =>
    .obj [("term", .str v), ("count", .ofNat n)]))])]

/-- One facet, without a tree over its values. -/
private def sizeFacet : Facet := { field := "size", operator := .or }

private def sizeConfig : Config := { facets := [sizeFacet] }

private theorem not_lists_counted : ¬ (counted "size" [("S", 3)]).Lists sizeConfig "size" "M" := by
  have hcounts : ((Config.readCounts (counted "size" [("S", 3)]).facets).get? "size").getD {} =
      ⟨[("S", 3)], 0⟩ := by decide +kernel
  rw [Response.Lists, hcounts]
  rintro (⟨k, hk⟩ | ⟨hwanted, -⟩)
  · simp at hk
  · cases hwanted

private theorem lists_counted : (counted "size" [("S", 3), ("M", 2)]).Lists sizeConfig "size" "M" :=
  Or.inl ⟨2, by decide +kernel⟩

/-- The view for the counts of a response that lists two sizes, and then of one that lists the first of them. -/
private def twoViews : FacetView :=
  let counts := fun r : Response => ((Config.readCounts r.facets).get? "size").getD {}
  sizeConfig.view sizeFacet (counts (counted "size" [("S", 3)])) .or
    (some (sizeConfig.view sizeFacet (counts (counted "size" [("S", 3), ("M", 2)])) .or none))

private theorem mem_twoViews : ⟨"M", 0, true⟩ ∈ twoViews.values :=
  Config.mem_view_of_shown rfl not_lists_counted (Config.exists_mem_view_of_lists rfl lists_counted)

/-- The next page of the same search: the size that its response leaves out stays, and comes from the first answer. -/
theorem carried_to_next_page :
    let c : Config := { facets := [{ field := "size", operator := .or }] }
    ∃ (h : History) (t : Ticket), Run c h ∧ t ∈ h.issued ∧
      (∃ view ∈ (h.session.complete t (.ok (counted "size" [("S", 3)]))).1.views, ⟨"M", 0, true⟩ ∈ view.values) ∧
      ∃ u q, (u, .ok q) ∈ h.accepted ∧ u.document.query = t.document.query ∧ q.Lists c "size" "M" := by
  intro c
  let start : History := { session := .new c }
  let first := start.beginSearch
  let t := start.session.beginSearch.2
  let page := (first.complete t (.ok (counted "size" [("S", 3), ("M", 2)]))).dispatch .nextPage
  let second := page.beginSearch
  let u := page.session.beginSearch.2
  have ht : t ∈ first.issued := List.mem_singleton.2 rfl
  have hu : u ∈ second.issued := List.mem_cons_self ..
  have hrun : Run c second := .beginSearch (.dispatch (.complete (.beginSearch .start) ht _) .nextPage)
  have haccepts : (second.session.complete u (.ok (counted "size" [("S", 3)]))).2 = true := rfl
  have hviews : (second.session.complete u (.ok (counted "size" [("S", 3)]))).1.views =
      [twoViews] := rfl
  have hview := hviews ▸ List.mem_singleton.2 rfl
  obtain ⟨-, -, hanswered⟩ := carried_value_of_present_response c second hrun u hu _ haccepts _ hview
    ⟨"M", 0, true⟩ mem_twoViews not_lists_counted
  refine ⟨second, u, hrun, hu, ⟨_, hview, mem_twoViews⟩, hanswered fun g v q hacc _ => ?_⟩
  -- both responses are answers to the query of everything
  have haccepted : (second.complete u (.ok (counted "size" [("S", 3)]))).accepted =
      [(u, .ok (counted "size" [("S", 3)])), (t, .ok (counted "size" [("S", 3), ("M", 2)]))] := rfl
  have hmem := hacc.mem
  rw [haccepted] at hmem
  rcases List.mem_cons.1 hmem with heq | hmem
  · cases heq
    rfl
  · cases List.mem_singleton.1 hmem
    rfl

/-- A size is selected while the first search is under way.  The answer for all sizes is accepted, and when the search
for the selected size is answered, a size of the first answer stays in the view, though no response to this query
listed it. -/
theorem carried_across_change :
    let c : Config := { facets := [{ field := "size", operator := .or }] }
    ∃ (h : History) (t : Ticket) (r : Response), Run c h ∧ t ∈ h.issued ∧
      (h.session.complete t (.ok r)).2 = true ∧
      ∃ view ∈ (h.session.complete t (.ok r)).1.views, ∃ x ∈ view.values, ¬ r.Lists c view.field x.value ∧
        ∀ u q, (u, .ok q) ∈ h.accepted → u.document.query ≠ t.document.query := by
  intro c
  let start : History := { session := .new c }
  let first := start.beginSearch
  let t := start.session.beginSearch.2
  let chosen := first.dispatch (.addSelection "size" (.term "S") none)
  let answered := chosen.complete t (.ok (counted "size" [("S", 3), ("M", 2)]))
  let second := answered.beginSearch
  let u := answered.session.beginSearch.2
  have ht : t ∈ chosen.issued := List.mem_singleton.2 rfl
  have hrun : Run c second := .beginSearch (.complete (.dispatch (.beginSearch .start) _) ht _)
  have hviews : (second.session.complete u (.ok (counted "size" [("S", 3)]))).1.views =
      [twoViews] := rfl
  have hview := hviews ▸ List.mem_singleton.2 rfl
  refine ⟨second, u, counted "size" [("S", 3)], hrun, List.mem_cons_self .., rfl, _, hview, ⟨"M", 0, true⟩,
    mem_twoViews, not_lists_counted, fun v q hmem => ?_⟩
  have haccepted : second.accepted = [(t, .ok (counted "size" [("S", 3), ("M", 2)]))] := rfl
  rw [haccepted] at hmem
  cases List.mem_singleton.1 hmem
  have hold : t.document.query = .matchAll := rfl
  have hnew : u.document.query = .filtered .matchAll (.should [.term "size" "S"]) := rfl
  rw [hold, hnew]
  exact Clause.noConfusion

end FacetedSearch
