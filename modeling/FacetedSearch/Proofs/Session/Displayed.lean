import FacetedSearch.Proofs.Session.Accepted
import FacetedSearch.Proofs.View.Contents

/-!
# What a session displays

Views are made when a response is accepted and made anew when a facet gets another order, each time from the counts of
the last results and in the orders that the facets have at that point.  The views that they start from differ, and so
does the state, but what was counted shows in any case.

* `Displays`: the views of a session are made from its results.
* `displays_dispatch`, `displays_complete`: every step keeps this.
* `reached_displays`: the views, facet by facet.
-/

namespace FacetedSearch

namespace Session

/-- The views are made from the results, for some state and from some previous views; without results there are
none. -/
def Displays (s : Session) : Prop :=
  match s.results with
  | none => s.views = []
  | some r => ∃ state previous, s.views = s.config.aggregate r.facets state previous

theorem displays_cycleOrder {s : Session} (h : s.Displays) (i : Nat) : (s.cycleOrder i).Displays := by
  rw [Displays] at h
  cases hf : s.config.facets[i]? with
  | none =>
    rw [cycleOrder, hf]
    exact h
  | some f =>
    rw [cycleOrder, hf]
    cases hresults : s.results with
    | none =>
      rw [hresults] at h
      simp only [Displays]
      exact h
    | some r =>
      simp only [Displays]
      exact ⟨s.state, s.views, rfl⟩

theorem displays_dispatch {s : Session} (h : s.Displays) (cmd : Command) : (s.dispatch cmd).Displays := by
  rcases dispatch_cases s cmd with ⟨i, -, hcycle⟩ | ⟨-, -, hrefused⟩ | ⟨-, hchange⟩
  · rw [hcycle]
    exact displays_cycleOrder h i
  · rw [hrefused]
    exact h
  · -- neither the views nor what they are made from is part of the state
    obtain ⟨dirty, keepsZeros, heq⟩ := change_eq s cmd
    rw [hchange, heq]
    exact h

theorem displays_complete {s : Session} (h : s.Displays) (t : Ticket) (o : Outcome) : (s.complete t o).1.Displays := by
  by_cases hgen : t.generation = s.generation
  · cases o with
    | ok r =>
      rw [complete_ok hgen]
      exact ⟨s.state, if s.keepsZeros then s.views else [], rfl⟩
    | error e =>
      rw [complete_error hgen]
      exact h
  · rw [complete_stale hgen]
    exact h

end Session

theorem run_displays {c : Config} {h : History} (hrun : Run c h) : h.session.Displays := by
  induction hrun with
  | start => rfl
  | dispatch _ cmd ih => exact Session.displays_dispatch ih cmd
  | beginSearch _ ih => exact ih
  | complete _ _ o ih => exact Session.displays_complete ih _ o

/-- A view depends on the order of its own facet, and on no other order. -/
theorem FacetView.Shows.of_reordered {c d : Config} (h : c.Reordered d) {counts : Entries FacetCounts} {f : Facet}
    {view : FacetView} (hshows : view.Shows d counts f) : view.Shows c counts f := by
  obtain ⟨facets, -, rfl⟩ := h
  exact { hshows with }

/-- What a session displays is consistent.  Without results there are no views.  With results there is one view for each
facet, in configured order: it has the field and the present order of the facet, and it shows what the results count for
the field, as a list of values or as the rows of the hierarchy.  Of the configuration only the orders of the facets
change.  The counts of a hierarchy are taken to add up to 64-bit numbers. -/
theorem reached_displays (c : Config) (h : History) (hreached : Reached c h) :
    c.Reordered h.session.config ∧ (h.session.results = none → h.session.views = []) ∧
      ∀ r, h.session.results = some r →
        List.Forall₂ (fun f view => view.Shows c r.facets f) h.session.config.facets h.session.views := by
  have hreordered := run_reordered hreached.run
  have hdisplays := run_displays hreached.run
  rw [Session.Displays] at hdisplays
  refine ⟨hreordered, fun hnone => ?_, fun r hresults => ?_⟩
  · rw [hnone] at hdisplays
    exact hdisplays
  · rw [hresults] at hdisplays
    obtain ⟨state, previous, hviews⟩ := hdisplays
    rw [hviews]
    exact (Config.shows_aggregate _ r.facets state previous).imp fun _ _ hshows => hshows.of_reordered hreordered

/-- A size is selected, the answer is accepted, and the facet gets its next order: the view has this order, and shows
the value that was counted and the one for the records without a value. -/
theorem displayed_in_next_order :
    let c : Config := { search := { addUndefined := true }, facets := [{ field := "size" }] }
    ∃ (h : History) (view : FacetView) (vs : List FacetValue), Reached c h ∧ h.session.views = [view] ∧
      view.order = .reverseTerm ∧ view.entries = .flat vs ∧
      ("S", 3) ∈ vs.map (fun x => (x.value, x.count)) ∧
      (undefinedText, 2) ∈ vs.map (fun x => (x.value, x.count)) := by
  intro c
  let response : Response := { facets := [("size", .obj [("terms", .arr [.obj [("term", .str "S"), ("count", .ofNat 3)]]),
    ("missing", .ofNat 2)])] }
  let chosen : History := History.dispatch { session := .new c } (.addSelection "size" (.term "S") none)
  let t := chosen.session.beginSearch.2
  let h := (chosen.beginSearch.complete t (.ok response)).dispatch (.cycleFacetOrder 0)
  have hreached : Reached c h :=
    .dispatch (.complete (.beginSearch (.dispatch .new _)) (List.mem_singleton.2 rfl) (.ok response)) _
  have hshown := (reached_displays c h hreached).2.2 _ rfl
  obtain ⟨view, rest, hshows, hrest, hviews⟩ := List.forall₂_cons_left_iff.1 hshown
  rw [List.forall₂_nil_left_iff.1 hrest] at hviews
  obtain ⟨vs, hentries, hlisted⟩ := hshows.flat rfl
  obtain ⟨zeros, hperm, -⟩ := hlisted.entries
  have hcounts : ((Config.readCounts response.facets).get? "size").getD {} = ⟨[("S", 3)], 2⟩ := by decide +kernel
  have hmem : ∀ x ∈ (FacetCounts.mk [("S", 3)] 2).listed true, x ∈ vs.map (fun x => (x.value, x.count)) := by
    intro x hx
    rw [← hcounts] at hx
    exact hperm.mem_iff.2 (List.mem_append_left _ hx)
  exact ⟨h, view, vs, hreached, hviews, hshows.order, hentries, hmem _ (by decide), hmem _ (by decide)⟩

end FacetedSearch
