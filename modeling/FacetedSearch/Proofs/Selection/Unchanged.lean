import FacetedSearch.Selection.Command

/-!
# What a command reports

A command says whether it changed the state.  When it says that it did not, the state is the one it was given, page
and sort keys included; so whoever drops work after such a command loses nothing.

* `forEachLeaf_fst`: the state after a change for every leaf, without the reports.
* `apply_eq_self`: a command that reports no change changes nothing.
-/

namespace FacetedSearch

namespace SearchState

variable {s : SearchState}

theorem select_eq_self {key : String} {v : Choice} {l : Logic} (h : (s.select key v l).2 = false) :
    (s.select key v l).1 = s := by
  simp only [select] at h ⊢
  split at h
  · cases h
  · rename_i hkept
    rw [if_neg hkept]

theorem deselect_eq_self {key : String} {v : Choice} (h : (s.deselect key v).2 = false) :
    (s.deselect key v).1 = s := by
  rw [deselect] at h ⊢
  split at h
  · cases h
  · rename_i habsent
    rw [if_neg habsent]

theorem toggleLogic_eq_self {key : String} (h : (s.toggleLogic key).2 = false) : (s.toggleLogic key).1 = s := by
  rw [toggleLogic] at h ⊢
  cases hl : s.keyLogic key with
  | none => rfl
  | some l =>
    rw [hl] at h
    cases h

theorem clearRange_eq_self {facet : Nat} (h : (s.clearRange facet).2 = false) : (s.clearRange facet).1 = s := by
  simp only [clearRange] at h ⊢
  split at h
  · rename_i hlength
    rw [if_pos hlength]
  · cases h

theorem setFreeText_eq_self {text : String} (h : (s.setFreeText text).2 = false) : (s.setFreeText text).1 = s := by
  rw [setFreeText] at h ⊢
  split at h
  · rename_i hsame
    rw [if_pos hsame]
  · cases h

theorem setSearchField_eq_self {field : Option String} (h : (s.setSearchField field).2 = false) :
    (s.setSearchField field).1 = s := by
  simp only [setSearchField] at h ⊢
  split at h
  · rename_i hsame
    rw [if_pos hsame]
  · cases h

theorem setSort_eq_self {sort : List SortKey} (h : (s.setSort sort).2 = false) : (s.setSort sort).1 = s := by
  rw [setSort] at h ⊢
  split at h
  · rename_i hsame
    rw [if_pos hsame]
  · cases h

theorem setOffset_eq_self {offset : Nat} (h : (s.setOffset offset).2 = false) : (s.setOffset offset).1 = s := by
  have hoffset : s.page.offset = offset := by simpa [setOffset] using h
  rw [setOffset, ← hoffset]

theorem setSize_eq_self {size : Nat} (h : (s.setSize size).2 = false) : (s.setSize size).1 = s := by
  obtain ⟨hsize, hoffset⟩ : s.page.size = size ∧ s.page.offset = 0 := by simpa [setSize] using h
  rw [setSize, ← hsize, ← hoffset]

theorem clear_eq_self (hempty : s.isEmpty = true) (hoffset : s.page.offset = 0) : s.clear = s := by
  obtain ⟨⟨hselections, hranges⟩, htext⟩ : (s.selections = [] ∧ s.ranges = []) ∧ s.freeText = "" := by
    simpa [isEmpty] using hempty
  rw [clear, rewind]
  simp only [← hselections, ← hranges, ← htext, ← hoffset]

end SearchState

namespace Config

/-! ### A change for every leaf -/

/-- The report on all leaves, started with an earlier report. -/
private theorem foldl_reports (change : SearchState → String → SearchState × Bool) (leaves : List String)
    (s : SearchState) (changed : Bool) :
    leaves.foldl (fun acc leaf => ((change acc.1 leaf).1, acc.2 || (change acc.1 leaf).2)) (s, changed) =
      ((forEachLeaf change s leaves).1, changed || (forEachLeaf change s leaves).2) := by
  have hdef : ∀ s leaves, forEachLeaf change s leaves =
      leaves.foldl (fun acc leaf => ((change acc.1 leaf).1, acc.2 || (change acc.1 leaf).2)) (s, false) :=
    fun _ _ => rfl
  induction leaves generalizing s changed with
  | nil => simp [hdef]
  | cons leaf leaves ih =>
    have hrest := ih (change s leaf).1 (change s leaf).2
    rw [List.foldl_cons, ih, hdef s (leaf :: leaves), List.foldl_cons, Bool.false_or, hrest, Bool.or_assoc]

theorem forEachLeaf_cons (change : SearchState → String → SearchState × Bool) (s : SearchState) (leaf : String)
    (leaves : List String) :
    forEachLeaf change s (leaf :: leaves) =
      ((forEachLeaf change (change s leaf).1 leaves).1,
        (change s leaf).2 || (forEachLeaf change (change s leaf).1 leaves).2) := by
  have hrest := foldl_reports change leaves (change s leaf).1 (false || (change s leaf).2)
  rw [Bool.false_or] at hrest
  exact hrest

theorem forEachLeaf_fst (change : SearchState → String → SearchState × Bool) (s : SearchState)
    (leaves : List String) :
    (forEachLeaf change s leaves).1 = leaves.foldl (fun s leaf => (change s leaf).1) s := by
  induction leaves generalizing s with
  | nil => rfl
  | cons leaf leaves ih => rw [forEachLeaf_cons, List.foldl_cons, ih]

theorem forEachLeaf_eq_self {change : SearchState → String → SearchState × Bool}
    (hchange : ∀ s leaf, (change s leaf).2 = false → (change s leaf).1 = s) {s : SearchState} {leaves : List String}
    (h : (forEachLeaf change s leaves).2 = false) : (forEachLeaf change s leaves).1 = s := by
  induction leaves generalizing s with
  | nil => rfl
  | cons leaf leaves ih =>
    rw [forEachLeaf_cons] at h ⊢
    obtain ⟨hfirst, hrest⟩ := Bool.or_eq_false_iff.1 h
    exact (ih hrest).trans (hchange s leaf hfirst)

/-! ### Commands -/

/-- A command that reports no change leaves the whole state as it was. -/
theorem apply_eq_self {c : Config} {s : SearchState} {cmd : Command} (h : (c.apply s cmd).2 = false) :
    (c.apply s cmd).1 = s := by
  cases cmd with
  | addSelection key v l => exact SearchState.select_eq_self h
  | removeSelection key v => exact SearchState.deselect_eq_self h
  | toggleKeyLogic key => exact SearchState.toggleLogic_eq_self h
  | setRange facet low high => cases h
  | clearRange facet => exact SearchState.clearRange_eq_self h
  | setFreeText text => exact SearchState.setFreeText_eq_self h
  | setSearchField field => exact SearchState.setSearchField_eq_self h
  | setSort sort => exact SearchState.setSort_eq_self h
  | setPage _ | nextPage | previousPage => exact SearchState.setOffset_eq_self h
  | setPageSize size => exact SearchState.setSize_eq_self h
  | cycleFacetOrder _ => rfl
  | selectNode facet path =>
    rw [apply] at h ⊢
    split at h
    · exact forEachLeaf_eq_self (fun _ _ => SearchState.select_eq_self) h
    · rfl
  | deselectNode facet path =>
    rw [apply] at h ⊢
    split at h
    · exact forEachLeaf_eq_self (fun _ _ => SearchState.deselect_eq_self) h
    · rfl
  | clear =>
    obtain ⟨hempty, hoffset⟩ : s.isEmpty = true ∧ s.page.offset = 0 := by simpa [apply] using h
    exact SearchState.clear_eq_self hempty hoffset

end Config

end FacetedSearch
