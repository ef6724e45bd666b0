import FacetedSearch.Config.Merge
import FacetedSearch.Proofs.Selection.Coherent
import FacetedSearch.Proofs.Selection.Unchanged

/-!
# When a report is true

A command that says that it changed the state did so, with one exception: setting a range always says so, even when
the facet has these bounds already and the results are at their start.  A change for many leaves is a change because
it goes one way: selecting them only makes the list of selections longer, and dropping them only makes it shorter.

* `forEachLeaf_advances`: what each reported change does, all of them together do.
* `putRange_eq_self_iff`: a range is put where it is already.
* `apply_ne_self`: a command that reports a change changes the state, unless it repeats a range.
* `apply_reports_change_iff`: reports are true except in this case.
-/

namespace FacetedSearch

namespace SearchState

variable {s : SearchState} {key : String} {v : Choice} {l : Logic}

/-! ### Selections -/

/-- A key without the other logic is not switched, so a value is added to it or nothing happens. -/
theorem select_of_not_switched (h : s.keyLogic key ≠ some l.flip) :
    s.select key v l =
      if s.isSelected key v then (s, false)
      else ({ s with selections := s.selections ++ [Selection.mk key v l] }.rewind, true) := by
  have hkept : (s.keyLogic key == some l.flip) = false := beq_eq_false_iff_ne.2 h
  rw [select, hkept]
  cases s.isSelected key v <;> rfl

/-- A key that is not switched to a logic stays so while its values are selected with this logic. -/
theorem keyLogic_select_ne (h : s.keyLogic key ≠ some l.flip) :
    (s.select key v l).1.keyLogic key ≠ some l.flip := by
  rw [select_of_not_switched h]
  split
  · exact h
  · have hne : l ≠ l.flip := by cases l <;> decide
    change Option.map Selection.logic ((s.selections ++ [Selection.mk key v l]).find? (·.key == key)) ≠ some l.flip
    rw [List.find?_append]
    cases hfind : s.selections.find? (·.key == key) with
    | some x =>
      rw [keyLogic, hfind] at h
      exact h
    | none => simp [hne]

/-- A reported selection of a key that is not switched is one more selection. -/
theorem length_lt_select (h : s.keyLogic key ≠ some l.flip) (hreport : (s.select key v l).2 = true) :
    s.selections.length < (s.select key v l).1.selections.length := by
  rw [select_of_not_switched h] at hreport ⊢
  split at hreport
  · cases hreport
  · rename_i habsent
    rw [if_neg habsent]
    simp [rewind]

theorem length_deselect_lt (hreport : (s.deselect key v).2 = true) :
    (s.deselect key v).1.selections.length < s.selections.length := by
  rw [deselect] at hreport ⊢
  split at hreport
  · rename_i hpresent
    rw [if_pos hpresent]
    obtain ⟨x, hx, hkey⟩ := List.any_eq_true.1 hpresent
    have hlength := List.length_eraseP_of_mem (p := fun x : Selection => x.key == key && x.value == v) hx hkey
    have hpos : 0 < s.selections.length := List.length_pos_of_mem hx
    change (s.selections.eraseP _).length < _
    omega
  · cases hreport

/-- The first selection of a key that is switched had the other logic. -/
private theorem withLogic_ne_self (h : s.keyLogic key = some l.flip) : withLogic key l s.selections ≠ s.selections := by
  intro hsame
  obtain ⟨x, hfind, hlogic⟩ := Option.map_eq_some_iff.1 h
  have hkey : x.key = key := by simpa using List.find?_some hfind
  have hmem : x ∈ withLogic key l s.selections := by
    rw [hsame]
    exact List.mem_of_find?_eq_some hfind
  obtain ⟨y, -, hykey, -, hnew⟩ := mem_withLogic hmem
  rw [if_pos (hykey.symm.trans hkey), hlogic] at hnew
  cases l <;> cases hnew

theorem select_ne_self (hreport : (s.select key v l).2 = true) : (s.select key v l).1 ≠ s := by
  intro hsame
  by_cases hswitched : s.keyLogic key = some l.flip
  · have hselections := congrArg SearchState.selections hsame
    rw [selections_select, switched, if_pos (beq_iff_eq.2 hswitched)] at hselections
    split at hselections
    · exact withLogic_ne_self hswitched hselections
    · have hlength := congrArg List.length hselections
      simp [withLogic] at hlength
  · have hlonger := length_lt_select hswitched hreport
    rw [hsame] at hlonger
    exact Nat.lt_irrefl _ hlonger

theorem deselect_ne_self (hreport : (s.deselect key v).2 = true) : (s.deselect key v).1 ≠ s := by
  intro hsame
  have hshorter := length_deselect_lt hreport
  rw [hsame] at hshorter
  exact Nat.lt_irrefl _ hshorter

theorem toggleLogic_ne_self (hreport : (s.toggleLogic key).2 = true) : (s.toggleLogic key).1 ≠ s := by
  rw [toggleLogic] at hreport ⊢
  cases hl : s.keyLogic key with
  | none =>
    rw [hl] at hreport
    cases hreport
  | some l =>
    have hflip : s.keyLogic key = some l.flip.flip := by rw [hl]; cases l <;> rfl
    exact fun hsame => withLogic_ne_self hflip (congrArg SearchState.selections hsame)

/-! ### Ranges -/

/-- Putting a range changes nothing just when it is the first one on its facet already. -/
theorem putRange_eq_self_iff (r : FacetRange) (rs : List FacetRange) :
    putRange r rs = rs ↔ rs.find? (·.facet == r.facet) = some r := by
  induction rs with
  | nil => simp [putRange]
  | cons x rs ih =>
    rw [putRange]
    by_cases hfacet : x.facet = r.facet
    · rw [if_pos hfacet, List.find?_cons_of_pos (by simp [hfacet])]
      simp [eq_comm]
    · rw [if_neg hfacet, List.find?_cons_of_neg (by simp [hfacet]), ← ih]
      simp

theorem clearRange_ne_self {facet : Nat} (hreport : (s.clearRange facet).2 = true) :
    (s.clearRange facet).1 ≠ s := by
  simp only [clearRange] at hreport ⊢
  split at hreport
  · cases hreport
  · rename_i hlength
    rw [if_neg hlength]
    exact fun hsame => hlength (congrArg (fun t => t.ranges.length) hsame)

/-! ### Texts, sort keys and the page -/

theorem setFreeText_ne_self {text : String} (hreport : (s.setFreeText text).2 = true) :
    (s.setFreeText text).1 ≠ s := by
  rw [setFreeText] at hreport ⊢
  split at hreport
  · cases hreport
  · rename_i hnew
    rw [if_neg hnew]
    exact fun hsame => hnew (congrArg SearchState.freeText hsame).symm

theorem setSearchField_ne_self {field : Option String} (hreport : (s.setSearchField field).2 = true) :
    (s.setSearchField field).1 ≠ s := by
  simp only [setSearchField] at hreport ⊢
  split at hreport
  · cases hreport
  · rename_i hnew
    rw [if_neg hnew]
    exact fun hsame => hnew (congrArg SearchState.searchField hsame).symm

theorem setSort_ne_self {sort : List SortKey} (hreport : (s.setSort sort).2 = true) : (s.setSort sort).1 ≠ s := by
  rw [setSort] at hreport ⊢
  split at hreport
  · cases hreport
  · rename_i hnew
    rw [if_neg hnew]
    exact fun hsame => hnew (congrArg SearchState.sort hsame).symm

theorem setOffset_ne_self {offset : Nat} (hreport : (s.setOffset offset).2 = true) : (s.setOffset offset).1 ≠ s := by
  intro hsame
  have hmoved : s.page.offset ≠ offset := by simpa [setOffset] using hreport
  exact hmoved (congrArg (fun t => t.page.offset) hsame).symm

theorem setSize_ne_self {size : Nat} (hreport : (s.setSize size).2 = true) : (s.setSize size).1 ≠ s := by
  intro hsame
  have hpage : s.page = ⟨0, size⟩ := (congrArg SearchState.page hsame).symm
  simp [setSize, hpage] at hreport

theorem clear_ne_self (hreport : (!s.isEmpty || s.page.offset != 0) = true) : s.clear ≠ s := by
  intro hsame
  have hempty : s.isEmpty = true := by rw [← hsame]; rfl
  have hoffset : s.page.offset = 0 := by rw [← hsame]; rfl
  simp [hempty, hoffset] at hreport

/-- Whether a command sets, at the start of the results, the bounds that a facet has already. -/
def RepeatsRange (s : SearchState) : Command → Prop
  | .setRange facet low high => s.page.offset = 0 ∧ s.ranges.find? (·.facet == facet) = some ⟨facet, low, high⟩
  | _ => False

theorem setRange_eq_self_iff (facet : Nat) (low high : String) :
    s.setRange ⟨facet, low, high⟩ = s ↔ s.RepeatsRange (.setRange facet low high) := by
  have hranges := putRange_eq_self_iff ⟨facet, low, high⟩ s.ranges
  rw [RepeatsRange, ← hranges, setRange, rewind]
  constructor
  · intro hsame
    exact ⟨(congrArg (fun t => t.page.offset) hsame).symm, congrArg SearchState.ranges hsame⟩
  · rintro ⟨hoffset, hput⟩
    rw [hput, ← hoffset]

end SearchState

namespace Config

/-! ### A change for every leaf -/

/-- When every reported change moves a state on, and one that is not reported leaves it alone, then a report for all
leaves means that the state moved on.  What each change keeps may be assumed. -/
theorem forEachLeaf_advances {R : SearchState → SearchState → Prop} {P : SearchState → Prop}
    {change : SearchState → String → SearchState × Bool}
    (htrans : ∀ {s t u}, R s t → R t u → R s u) (hkeeps : ∀ s leaf, P s → P (change s leaf).1)
    (hsame : ∀ s leaf, (change s leaf).2 = false → (change s leaf).1 = s)
    (hmoves : ∀ s leaf, P s → (change s leaf).2 = true → R s (change s leaf).1)
    {s : SearchState} (hs : P s) {leaves : List String} (hreport : (forEachLeaf change s leaves).2 = true) :
    R s (forEachLeaf change s leaves).1 := by
  induction leaves generalizing s with
  | nil => cases hreport
  | cons leaf leaves ih =>
    rw [forEachLeaf_cons] at hreport ⊢
    cases hfirst : (change s leaf).2 with
    | false =>
      rw [hsame s leaf hfirst] at hreport ⊢
      rw [hfirst, Bool.false_or] at hreport
      exact ih hs hreport
    | true =>
      have hbefore := hmoves s leaf hs hfirst
      cases hrest : (forEachLeaf change (change s leaf).1 leaves).2 with
      | false => rwa [forEachLeaf_eq_self hsame hrest]
      | true => exact htrans hbefore (ih (hkeeps s leaf hs) hrest)

/-- The logic in which the leaves of a node are selected is that of their key, if it has one. -/
theorem keyLogic_ne_flip_resolveLogic (c : Config) (s : SearchState) (key : String) :
    s.keyLogic key ≠ some (c.resolveLogic s key none).flip := by
  intro hflip
  cases hl : s.keyLogic key with
  | none =>
    rw [hl] at hflip
    cases hflip
  | some l =>
    rw [resolveLogic, hl] at hflip
    cases l <;> cases hflip

/-! ### Commands -/

/-- A command that reports a change changes the state, unless it repeats a range. -/
theorem apply_ne_self {c : Config} {s : SearchState} {cmd : Command} (hnew : ¬s.RepeatsRange cmd)
    (hreport : (c.apply s cmd).2 = true) : (c.apply s cmd).1 ≠ s := by
  cases cmd with
  | addSelection key v l => exact SearchState.select_ne_self hreport
  | removeSelection key v => exact SearchState.deselect_ne_self hreport
  | toggleKeyLogic key => exact SearchState.toggleLogic_ne_self hreport
  | setRange facet low high => exact mt (SearchState.setRange_eq_self_iff facet low high).1 hnew
  | clearRange facet => exact SearchState.clearRange_ne_self hreport
  | setFreeText text => exact SearchState.setFreeText_ne_self hreport
  | setSearchField field => exact SearchState.setSearchField_ne_self hreport
  | setSort sort => exact SearchState.setSort_ne_self hreport
  | setPage _ | nextPage | previousPage => exact SearchState.setOffset_ne_self hreport
  | setPageSize size => exact SearchState.setSize_ne_self hreport
  | cycleFacetOrder _ => cases hreport
  | selectNode facet path =>
    rw [apply] at hreport ⊢
    split at hreport
    · rename_i key leaves _
      have hlonger := forEachLeaf_advances (R := fun s t => s.selections.length < t.selections.length)
        Nat.lt_trans (fun _ _ ht => SearchState.keyLogic_select_ne ht) (fun _ _ => SearchState.select_eq_self)
        (fun _ _ ht => SearchState.length_lt_select ht) (keyLogic_ne_flip_resolveLogic c s key) hreport
      exact fun hsame => Nat.lt_irrefl _ (hsame ▸ hlonger)
    · cases hreport
  | deselectNode facet path =>
    rw [apply] at hreport ⊢
    split at hreport
    · have hshorter := forEachLeaf_advances (R := fun s t => t.selections.length < s.selections.length)
        (P := fun _ => True) (fun hst htu => Nat.lt_trans htu hst) (fun _ _ _ => trivial)
        (fun _ _ => SearchState.deselect_eq_self) (fun _ _ _ => SearchState.length_deselect_lt) trivial hreport
      exact fun hsame => Nat.lt_irrefl _ (hsame ▸ hshorter)
    · cases hreport
  | clear => exact SearchState.clear_ne_self hreport

end Config

/-- A command reports a change just when the state after it is another one, unless the command sets, at the start of
the results, the bounds that a facet has already; then it reports a change and makes none. -/
theorem apply_reports_change_iff (c : Config) (s : SearchState) (cmd : Command) :
    ((c.apply s cmd).2 = true ↔ (c.apply s cmd).1 ≠ s) ↔ ¬s.RepeatsRange cmd := by
  constructor
  · intro hexact hrepeated
    cases cmd with
    | setRange facet low high => exact hexact.1 rfl ((SearchState.setRange_eq_self_iff facet low high).2 hrepeated)
    | _ => exact hrepeated
  · intro hnew
    refine ⟨Config.apply_ne_self hnew, fun hchanged => ?_⟩
    rw [← Bool.not_eq_false]
    exact fun hsilent => hchanged (Config.apply_eq_self hsilent)

/-- The same range is set twice, and the second time is reported as a change. -/
theorem repeated_range_reported :
    let c : Config := { facets := [{ field := "year" }], root := some "" }
    let s := c.run c.startState [.setRange 0 "1990" "2000"]
    Config.merge [⟨"search.toml", { facets := some [{ field := some "year" }] }⟩] = .ok c ∧
      (c.apply s (.setRange 0 "1990" "2000")).2 = true ∧ (c.apply s (.setRange 0 "1990" "2000")).1 = s :=
  ⟨by rfl, by decide, by decide⟩

end FacetedSearch
