import FacetedSearch.Proofs.Selection.Coherent

/-!
# Back to the start

An offset counts records of one selection, so a command that changes the selection goes back to the first record.  It
leaves the page size and the sort keys alone, and when it has nothing to change it leaves the offset, too.  The other
commands change nothing but the page and the sort keys.

* `Rewound`: what a command that changes the selection may do to the page and the sort keys.
* `rewound_apply`, `rewound_run`: one of these commands, and several in a row.
* `exists_page_sort`: what the other commands may do.
-/

namespace FacetedSearch

namespace SearchState

/-- The second state is the first one, or it is at its start; page size and sort keys are the same. -/
structure Rewound (s t : SearchState) : Prop where
  offset : t = s ∨ t.page.offset = 0
  size : t.page.size = s.page.size
  sort : t.sort = s.sort

namespace Rewound

variable {s t u : SearchState}

theorem refl (s : SearchState) : s.Rewound s := ⟨Or.inl rfl, rfl, rfl⟩

theorem trans (hst : s.Rewound t) (htu : t.Rewound u) : s.Rewound u := by
  refine ⟨?_, htu.size.trans hst.size, htu.sort.trans hst.sort⟩
  rcases htu.offset with rfl | hzero
  · exact hst.offset
  · exact Or.inr hzero

theorem select (s : SearchState) (key : String) (v : Choice) (l : Logic) : s.Rewound (s.select key v l).1 := by
  simp only [SearchState.select]
  split
  · exact ⟨Or.inr rfl, rfl, rfl⟩
  · exact refl s

theorem deselect (s : SearchState) (key : String) (v : Choice) : s.Rewound (s.deselect key v).1 := by
  unfold SearchState.deselect
  split
  · exact ⟨Or.inr rfl, rfl, rfl⟩
  · exact refl s

end Rewound

end SearchState

namespace Config

theorem rewound_apply (c : Config) (s : SearchState) {cmd : Command} (h : cmd.changesSelection = true) :
    s.Rewound (c.apply s cmd).1 := by
  cases cmd with
  | addSelection key v l => exact .select s key v _
  | removeSelection key v => exact .deselect s key v
  | toggleKeyLogic key =>
    simp only [apply, SearchState.toggleLogic]
    split
    · exact ⟨Or.inr rfl, rfl, rfl⟩
    · exact .refl s
  | setRange facet low high => exact ⟨Or.inr rfl, rfl, rfl⟩
  | clearRange facet =>
    simp only [apply, SearchState.clearRange]
    split
    · exact .refl s
    · exact ⟨Or.inr rfl, rfl, rfl⟩
  | setFreeText text =>
    simp only [apply, SearchState.setFreeText]
    split
    · exact .refl s
    · exact ⟨Or.inr rfl, rfl, rfl⟩
  | setSearchField field =>
    simp only [apply, SearchState.setSearchField]
    split
    · exact .refl s
    · exact ⟨Or.inr rfl, rfl, rfl⟩
  | selectNode facet path =>
    rw [apply]
    split
    · exact forEachLeaf_preserves (fun t _ ht => ht.trans (.select t _ _ _)) _ (.refl s)
    · exact .refl s
  | deselectNode facet path =>
    rw [apply]
    split
    · exact forEachLeaf_preserves (fun t _ ht => ht.trans (.deselect t _ _)) _ (.refl s)
    · exact .refl s
  | clear => exact ⟨Or.inr rfl, rfl, rfl⟩
  | setSort _ | setPage _ | setPageSize _ | nextPage | previousPage | cycleFacetOrder _ => cases h

theorem rewound_run (c : Config) (s : SearchState) {cmds : List Command}
    (h : ∀ cmd ∈ cmds, cmd.changesSelection = true) : s.Rewound (c.run s cmds) :=
  run_preserves (fun t cmd hcmd ht => ht.trans (rewound_apply c t (h cmd hcmd))) (.refl s)

/-- A command that does not change the selection changes at most the page and the sort keys. -/
theorem exists_page_sort (c : Config) (s : SearchState) {cmd : Command} (h : cmd.changesSelection = false) :
    ∃ page sort, (c.apply s cmd).1 = { s with page, sort } := by
  cases cmd with
  | setPage _ | setPageSize _ | nextPage | previousPage => exact ⟨_, s.sort, rfl⟩
  | cycleFacetOrder _ => exact ⟨s.page, s.sort, rfl⟩
  | setSort sort =>
    simp only [apply, SearchState.setSort]
    split
    · exact ⟨s.page, s.sort, rfl⟩
    · exact ⟨_, sort, rfl⟩
  | _ => cases h

end Config

end FacetedSearch
