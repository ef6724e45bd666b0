import FacetedSearch.Proofs.Session.Accepted

/-!
# Sessions without unsent changes

A session is clean while no command has reported a change since its last search was begun.  A report of no change is
sound for every command, so the state of a clean session is the one for which it has last asked the backend.  Orders
of facets may have changed, and they show in the facet requests alone.

* `LastSearch`: where the last search of a history was begun.
* `dispatch_clean`: a command that leaves a session clean leaves its state alone.
* `LastSearch.state_eq`: the state of a clean session since its last search.
* `clean_asks_nothing_new`: a clean session has nothing to search for.
-/

namespace FacetedSearch

/-- Configurations that differ in the orders of facets compile a state to the same document but for the facet
requests. -/
theorem Config.Reordered.compile_eq {c d : Config} (h : c.Reordered d) (s : SearchState) :
    d.compile s = { c.compile s with facets := (d.compile s).facets } := by
  have hquery := h.compileQuery_eq s
  obtain ⟨facets, -, rfl⟩ := h
  simp only [compile, hquery]

namespace Session

/-- A command that leaves a session clean has found it clean, and leaves its state alone. -/
theorem dispatch_clean {s : Session} {cmd : Command} (hclean : (s.dispatch cmd).dirty = false) :
    s.dirty = false ∧ (s.dispatch cmd).state = s.state := by
  rcases dispatch_cases s cmd with ⟨i, -, h⟩ | ⟨-, -, h⟩ | ⟨-, h⟩
  · obtain ⟨facets, views, hcycle⟩ := cycleOrder_eq s i
    rw [h, hcycle] at hclean ⊢
    exact ⟨hclean, rfl⟩
  · rw [h] at hclean ⊢
    exact ⟨hclean, rfl⟩
  · rw [h] at hclean ⊢
    simp only [change] at hclean ⊢
    split at hclean
    · cases hclean
    · rename_i hunchanged
      rw [if_neg hunchanged]
      exact ⟨hclean, Config.apply_eq_self (Bool.eq_false_iff.2 hunchanged)⟩

/-- An outcome, accepted or not, is no change of the state. -/
theorem complete_frame (s : Session) (t : Ticket) (o : Outcome) :
    (s.complete t o).1.state = s.state ∧ (s.complete t o).1.dirty = s.dirty ∧
      (s.complete t o).1.config = s.config := by
  by_cases hgen : t.generation = s.generation
  · cases o with
    | ok r =>
      rw [complete_ok hgen]
      exact ⟨rfl, rfl, rfl⟩
    | error e =>
      rw [complete_error hgen]
      exact ⟨rfl, rfl, rfl⟩
  · rw [complete_stale hgen]
    exact ⟨rfl, rfl, rfl⟩

end Session

/-- The last search of the second history was begun at the first one. -/
inductive LastSearch (g : History) : History → Prop
  | begun : LastSearch g g.beginSearch
  | dispatch {h : History} (hlast : LastSearch g h) (cmd : Command) : LastSearch g (h.dispatch cmd)
  | complete {h : History} (hlast : LastSearch g h) {t : Ticket} (ht : t ∈ h.issued) (o : Outcome) :
    LastSearch g (h.complete t o)

namespace LastSearch

variable {g h : History}

/-- The ticket of the last search is the newest one. -/
theorem head?_issued (hlast : LastSearch g h) : h.issued.head? = some g.session.beginSearch.2 := by
  induction hlast with
  | begun => rfl
  | dispatch _ _ ih => exact ih
  | complete _ _ _ ih => exact ih

theorem reordered (hlast : LastSearch g h) : g.session.config.Reordered h.session.config := by
  induction hlast with
  | begun => exact .refl _
  | dispatch _ cmd ih => exact ih.trans (Session.reordered_dispatch _ cmd)
  | @complete h _ t _ o ih =>
    have hconfig : (h.complete t o).session.config = h.session.config := (h.session.complete_frame t o).2.2
    rw [hconfig]
    exact ih

/-- As long as the session is clean, its state is the one in which the last search was begun. -/
theorem state_eq (hlast : LastSearch g h) (hclean : h.session.dirty = false) : h.session.state = g.session.state := by
  induction hlast with
  | begun => rfl
  | dispatch _ cmd ih =>
    obtain ⟨hbefore, hstate⟩ := Session.dispatch_clean hclean
    exact hstate.trans (ih hbefore)
  | @complete h _ t _ o ih =>
    obtain ⟨hstate, hdirty, -⟩ := h.session.complete_frame t o
    exact hstate.trans (ih (hdirty.symm.trans hclean))

end LastSearch

/-- Before the first search a session is not clean. -/
theorem run_dirty {c : Config} {h : History} (hrun : Run c h) (hissued : h.issued = []) :
    h.session.dirty = true := by
  induction hrun with
  | start => rfl
  | @dispatch h _ cmd ih =>
    rw [← Bool.not_eq_false]
    intro hclean
    have hbefore : h.session.dirty = false := (Session.dispatch_clean hclean).1
    rw [ih hissued] at hbefore
    cases hbefore
  | beginSearch => cases hissued
  | @complete h _ t ht _ _ =>
    have hissued : h.issued = [] := hissued
    rw [hissued] at ht
    cases ht

/-- Either no search has begun yet, or the last one was begun at some point of the history. -/
theorem Reached.lastSearch {c : Config} {h : History} (hreached : Reached c h) :
    h.issued = [] ∨ ∃ g, Reached c g ∧ LastSearch g h := by
  induction hreached with
  | new => exact Or.inl rfl
  | opened => exact Or.inl rfl
  | dispatch _ cmd ih =>
    rcases ih with hnone | ⟨g, hg, hlast⟩
    · exact Or.inl hnone
    · exact Or.inr ⟨g, hg, hlast.dispatch cmd⟩
  | beginSearch hreached => exact Or.inr ⟨_, hreached, .begun⟩
  | complete _ ht o ih =>
    rcases ih with hnone | ⟨g, hg, hlast⟩
    · exact Or.inl hnone
    · exact Or.inr ⟨g, hg, hlast.complete ht o⟩

/-- A clean session has nothing to search for: a search was begun, the state is the one in which the last search was
begun, and it compiles to the document of the newest ticket, facet requests apart.  Offsets are taken to be 64-bit
numbers. -/
theorem clean_asks_nothing_new (c : Config) (h : History) (hreached : Reached c h) (hclean : h.session.dirty = false) :
    ∃ g t, Reached c g ∧ LastSearch g h ∧ t = g.session.beginSearch.2 ∧ h.issued.head? = some t ∧
      h.session.state = g.session.state ∧
      h.session.compile.query = t.document.query ∧ h.session.compile.offset = t.document.offset ∧
      h.session.compile.size = t.document.size ∧ h.session.compile.sort = t.document.sort ∧
      h.session.compile.fields = t.document.fields ∧
      h.session.compile.partialFields = t.document.partialFields := by
  rcases hreached.lastSearch with hnone | ⟨g, hg, hlast⟩
  · have hdirty := run_dirty hreached.run hnone
    rw [hclean] at hdirty
    cases hdirty
  · have hstate := hlast.state_eq hclean
    have hcompile : h.session.compile = { g.session.compile with facets := h.session.compile.facets } := by
      rw [Session.compile, hstate]
      exact hlast.reordered.compile_eq g.session.state
    refine ⟨g, _, hg, hlast, rfl, hlast.head?_issued, hstate, ?_⟩
    rw [hcompile]
    exact ⟨rfl, rfl, rfl, rfl, rfl, rfl⟩

/-- A size is selected and searched for; then it is selected once more, the facet gets its next order, and the next page
is refused by the answer.  The session is clean, though its facet request has changed. -/
theorem clean_after_repeated_commands :
    ∃ (h : History) (t : Ticket), Reached { facets := [{ field := "size" }] } h ∧ h.session.dirty = false ∧
      h.session.config.facets = [{ field := "size", order := .reverseTerm }] ∧ h.issued.head? = some t ∧
      h.session.compile.query = t.document.query := by
  let chosen : History :=
    History.dispatch { session := .new { facets := [{ field := "size" }] } } (.addSelection "size" (.term "S") none)
  let t := chosen.session.beginSearch.2
  let answered := chosen.beginSearch.complete t (.ok { total := 3 })
  let h := ((answered.dispatch (.addSelection "size" (.term "S") none)).dispatch (.cycleFacetOrder 0)).dispatch .nextPage
  have hreached : Reached _ h :=
    .dispatch (.dispatch (.dispatch (.complete (.beginSearch (.dispatch .new _)) (List.mem_singleton.2 rfl) _) _) _) _
  obtain ⟨-, u, -, -, -, hhead, -, hquery, -⟩ := clean_asks_nothing_new _ h hreached rfl
  exact ⟨h, u, hreached, rfl, rfl, hhead, hquery⟩

end FacetedSearch
