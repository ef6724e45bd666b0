import FacetedSearch.Proofs.Compile.SameQuery
import FacetedSearch.Proofs.Selection.Rewound

/-!
# What commands leave alone

Each part of a state belongs to some of the commands.  The criteria, and with them the query, belong to the commands
that change the selection, the page size and the sort keys to one command each.  The offset may be moved to any place
by the commands that turn pages only; every other command goes back to the start, or has changed nothing at all.

* `apply_frame`: what each command leaves alone.
-/

namespace FacetedSearch

/-- A command that does not change the selection keeps all criteria, and the query that they compile to.  Only those that
turn pages can lead away from the start of the results: after every other command the state is the same or at their
start.  One command sets the page size, and one the sort keys. -/
theorem apply_frame (c : Config) (s : SearchState) (cmd : Command) :
    let t := (c.apply s cmd).1
    (cmd.changesSelection = false →
      t.selections = s.selections ∧ t.ranges = s.ranges ∧ t.freeText = s.freeText ∧ t.searchField = s.searchField ∧
        (c.compile t).query = (c.compile s).query) ∧
      (t = s ∨ t.page.offset = 0 ∨ (∃ offset, cmd = .setPage offset) ∨ cmd = .nextPage ∨ cmd = .previousPage) ∧
      (t.page.size = s.page.size ∨ ∃ size, cmd = .setPageSize size) ∧
      (t.sort = s.sort ∨ ∃ sort, cmd = .setSort sort) := by
  intro t
  cases hkind : cmd.changesSelection with
  | true =>
    have hrewound : s.Rewound t := Config.rewound_apply c s hkind
    exact ⟨nofun, hrewound.offset.imp_right Or.inl, Or.inl hrewound.size, Or.inl hrewound.sort⟩
  | false =>
    obtain ⟨page, sort, heq⟩ := Config.exists_page_sort c s hkind
    have hquery : c.compileQuery t = c.compileQuery s := Config.compileQuery_apply fun _ => hkind
    have hcriteria : t.selections = s.selections ∧ t.ranges = s.ranges ∧ t.freeText = s.freeText ∧
        t.searchField = s.searchField := by
      rw [show t = { s with page, sort } from heq]
      exact ⟨rfl, rfl, rfl, rfl⟩
    obtain ⟨hselections, hranges, htext, hfield⟩ := hcriteria
    refine ⟨fun _ => ⟨hselections, hranges, htext, hfield, hquery⟩, ?_⟩
    cases cmd with
    | setPage offset => exact ⟨Or.inr (Or.inr (Or.inl ⟨offset, rfl⟩)), Or.inl rfl, Or.inl rfl⟩
    | nextPage => exact ⟨Or.inr (Or.inr (Or.inr (Or.inl rfl))), Or.inl rfl, Or.inl rfl⟩
    | previousPage => exact ⟨Or.inr (Or.inr (Or.inr (Or.inr rfl))), Or.inl rfl, Or.inl rfl⟩
    | setPageSize size => exact ⟨Or.inr (Or.inl rfl), Or.inr ⟨size, rfl⟩, Or.inl rfl⟩
    | cycleFacetOrder facet => exact ⟨Or.inl rfl, Or.inl rfl, Or.inl rfl⟩
    | setSort sort =>
      have hset : t = s ∨ t.page.offset = 0 ∧ t.page.size = s.page.size := by
        simp only [t, Config.apply, SearchState.setSort]
        split
        · exact Or.inl rfl
        · exact Or.inr ⟨rfl, rfl⟩
      refine ⟨hset.imp_right fun h => Or.inl h.1, Or.inl ?_, Or.inr ⟨sort, rfl⟩⟩
      rcases hset with hsame | ⟨-, hsize⟩
      · rw [hsame]
      · exact hsize
    | _ => cases hkind

/-- On the third page of the results for a size, new sort keys go back to the start and keep the query. -/
theorem sort_on_third_page :
    let c : Config := { facets := [{ field := "size" }] }
    let s := c.run (.start {}) [.addSelection "size" (.term "S") none, .setPage 20]
    let t := (c.apply s (.setSort [⟨"year", .desc⟩])).1
    s.page.offset = 20 ∧ t.page.offset = 0 ∧ t.selections = [⟨"size", .term "S", .and⟩] ∧
      (c.compile t).query = (c.compile s).query := by
  intro c s t
  obtain ⟨hkept, -⟩ := apply_frame c s (.setSort [⟨"year", .desc⟩])
  obtain ⟨hselections, -, -, -, hquery⟩ := hkept rfl
  exact ⟨by decide, by decide, hselections.trans (by decide), hquery⟩

end FacetedSearch
