import FacetedSearch.CommandLine.Run
import FacetedSearch.Proofs.Config.Merged
import FacetedSearch.Proofs.Selection.Coherent
import FacetedSearch.Proofs.Session.Run
import Mathlib.Data.List.Induction

/-!
# The state that flags describe

The selection flags of a command become a list of commands on a new session.  Most of them go back to the start of the
results, a filter that is given twice is selected once, and a later range on a facet takes the place of an earlier one.
As the commands of the page come last, the page is the one of its flags.

* `SelectionFlags.Describe`: the state that flags describe.
* `run_filters`: the selections, in the order of first use.
* `rangeCommands_ok`, `rangeCommands_error`: ranges on facets, and a range on no facet.
* `mem_placedRanges_iff`: of the ranges on a facet, the last one.
* `session_of_flags`: building a session, with a range on no facet or on facets only.
-/

namespace FacetedSearch

/-- A range is the last one on its field. -/
def LastRange (ranges : List RangeFlag) (r : RangeFlag) : Prop :=
  ∃ before after, ranges = before ++ r :: after ∧ ∀ q ∈ after, q.field ≠ r.field

/-- A range is on the field of a facet. -/
def RangeFlag.OnFacet (c : Config) (r : RangeFlag) : Prop := ∃ g ∈ c.facets, g.field = r.field

instance (c : Config) (r : RangeFlag) : Decidable (r.OnFacet c) :=
  inferInstanceAs (Decidable (∃ g ∈ c.facets, g.field = r.field))

/-- The logic of a filter: OR if a flag says so for its key, and else that of the facet, or AND without a facet. -/
def filterLogic (c : Config) (orKeys : List String) (key : String) : Logic :=
  if key ∈ orKeys then .or else ((c.facet? key).map (·.operator)).getD .and

/-- The selection of a filter. -/
def filterSelection (c : Config) (orKeys : List String) (f : String × String) : Selection :=
  ⟨f.1, .ofText f.2, filterLogic c orKeys f.1⟩

/-- A state is the one that flags without a source describe. -/
structure SelectionFlags.Describe (c : Config) (f : SelectionFlags) (s : SearchState) : Prop where
  selections : s.selections = f.filters.eraseDups.map (filterSelection c f.orKeys)
  ranges : ∀ i low high, ⟨i, low, high⟩ ∈ s.ranges ↔
    ∃ g, c.facets[i]? = some g ∧ LastRange f.ranges ⟨g.field, low, high⟩
  oneRange : s.ranges.Pairwise fun a b => a.facet ≠ b.facet
  freeText : s.freeText = f.query.getD ""
  searchField : s.searchField = f.field.filter (· ≠ "")
  sort : s.sort = f.sort
  size : s.page.size = f.size.getD c.paging.size
  offset : s.page.offset = f.offset.getD
    (if s.selections = [] ∧ s.ranges = [] ∧ s.freeText = "" ∧ s.searchField = none ∧ s.sort = [] ∧ f.size = none then
      c.paging.offset
    else 0)

/-- A page that is kept as long as nothing changes; changes go back to the start. -/
def Page.keptIf (p : Page) (same : Prop) [Decidable same] : Page := ⟨if same then p.offset else 0, p.size⟩

theorem Page.keptIf_keptIf (p : Page) (a b : Prop) [Decidable a] [Decidable b] :
    (p.keptIf a).keptIf b = p.keptIf (b ∧ a) := by
  simp only [keptIf, ite_and]

namespace Config

variable {c : Config} {s : SearchState} {orKeys : List String}

/-! ### Filters -/

private theorem eraseDups_concat (xs : List (String × String)) (x : String × String) :
    (xs ++ [x]).eraseDups = if x ∈ xs then xs.eraseDups else xs.eraseDups ++ [x] := by
  rw [List.eraseDups_append]
  by_cases hx : x ∈ xs <;> simp [List.removeAll, hx, List.eraseDups_cons]

/-- A filter takes the logic of its key, since all selections of the key have it already. -/
theorem resolveLogic_filter (h : ∀ x ∈ s.selections, x.logic = filterLogic c orKeys x.key) (key : String) :
    c.resolveLogic s key (if orKeys.contains key then some .or else none) = filterLogic c orKeys key := by
  rw [filterLogic, resolveLogic]
  by_cases hor : key ∈ orKeys
  · simp [hor]
  · cases hlogic : s.keyLogic key with
    | none => simp [hor]
    | some l =>
      obtain ⟨x, hx, rfl⟩ := Option.map_eq_some_iff.1 hlogic
      have hkey : (x.key == key) = true := List.find?_some (p := fun x : Selection => x.key == key) hx
      have hsame := h x (List.mem_of_find?_eq_some hx)
      rw [filterLogic, beq_iff_eq.1 hkey] at hsame
      simpa [hor] using hsame

/-- Selecting a filter among the selections of others: once more it changes nothing, and new it comes last. -/
theorem apply_filterCommand (filters : List (String × String))
    (h : s.selections = filters.eraseDups.map (filterSelection c orKeys)) (f : String × String) :
    (c.apply s (filterCommand orKeys f)).1 =
      { s with
        selections := (filters ++ [f]).eraseDups.map (filterSelection c orKeys)
        page := s.page.keptIf (f ∈ filters) } := by
  have hselected : ∀ x ∈ s.selections, ∃ g ∈ filters, x = filterSelection c orKeys g := by
    rw [h]
    rintro _ hx
    obtain ⟨g, hg, rfl⟩ := List.mem_map.1 hx
    exact ⟨g, List.mem_eraseDups.1 hg, rfl⟩
  have hlogic : ∀ x ∈ s.selections, x.logic = filterLogic c orKeys x.key := by
    intro x hx
    obtain ⟨g, -, rfl⟩ := hselected x hx
    rfl
  have hcommand : (c.apply s (filterCommand orKeys f)).1 =
      (s.select (filterSelection c orKeys f).key (filterSelection c orKeys f).value
        (filterSelection c orKeys f).logic).1 := by
    show (s.select f.1 (.ofText f.2) (c.resolveLogic s f.1 _)).1 = _
    rw [resolveLogic_filter hlogic]
    rfl
  rw [hcommand, eraseDups_concat]
  by_cases hf : f ∈ filters
  · have hpresent : filterSelection c orKeys f ∈ s.selections := by
      rw [h]
      exact List.mem_map_of_mem (List.mem_eraseDups.2 hf)
    rw [SearchState.select_present hpresent fun x hx hkey => (hlogic x hx).trans (congrArg _ hkey), if_pos hf, ← h,
      Page.keptIf, if_pos hf]
  · have hnew : ∀ x ∈ s.selections, x.Agree (filterSelection c orKeys f) := by
      intro x hx hkey
      obtain ⟨g, hg, rfl⟩ := hselected x hx
      refine ⟨(hlogic _ hx).trans (congrArg _ hkey), fun hvalue => hf ?_⟩
      have hpair : g = f := Prod.ext hkey (Choice.ofText_injective hvalue)
      exact hpair ▸ hg
    rw [SearchState.select_new hnew, if_neg hf, List.map_append, ← h, Page.keptIf, if_neg hf]
    rfl

/-- Filters select each value once, in the order of first use. -/
theorem run_filters (hnone : s.selections = []) (filters : List (String × String)) :
    c.run s (filters.map (filterCommand orKeys)) =
      { s with
        selections := filters.eraseDups.map (filterSelection c orKeys)
        page := s.page.keptIf (filters = []) } := by
  induction filters using List.reverseRecOn with
  | nil =>
    show s = _
    simp [← hnone, Page.keptIf]
  | append_singleton filters f ih =>
    rw [List.map_append, run_append, ih]
    show (c.apply _ (filterCommand orKeys f)).1 = _
    rw [apply_filterCommand filters rfl, Page.keptIf_keptIf]
    have hsame : f ∈ filters ∧ filters = [] ↔ filters ++ [f] = [] := by
      constructor
      · rintro ⟨hf, rfl⟩
        cases hf
      · simp
    simp only [hsame]

/-! ### Ranges -/

theorem lastRange_concat {rs : List RangeFlag} {x r : RangeFlag} :
    LastRange (rs ++ [x]) r ↔ r = x ∨ LastRange rs r ∧ r.field ≠ x.field := by
  constructor
  · rintro ⟨before, after, heq, hafter⟩
    cases after using List.reverseRecOn with
    | nil => exact Or.inl (List.cons.inj (List.append_inj' heq rfl).2).1.symm
    | append_singleton after y =>
      rw [← List.cons_append, ← List.append_assoc] at heq
      obtain ⟨rfl, hy⟩ := List.append_inj' heq rfl
      cases hy
      exact Or.inr ⟨⟨before, after, rfl, fun q hq => hafter q (List.mem_append_left _ hq)⟩,
        (hafter x (List.mem_append_right _ (List.mem_singleton_self x))).symm⟩
  · rintro (rfl | ⟨⟨before, after, rfl, hafter⟩, hne⟩)
    · exact ⟨rs, [], rfl, nofun⟩
    · refine ⟨before, after ++ [x], by simp, fun q hq => ?_⟩
      rcases List.mem_append.1 hq with hq | hq
      · exact hafter q hq
      · rw [List.mem_singleton.1 hq]
        exact hne.symm

/-- A range on the facet of its field. -/
def placeRange (c : Config) (r : RangeFlag) : Option FacetRange :=
  (c.facetIndex? r.field).map fun i => ⟨i, r.low, r.high⟩

/-- The ranges that are left when ranges are set one after the other. -/
def placedRanges (c : Config) (rs : List RangeFlag) : List FacetRange :=
  (rs.filterMap (placeRange c)).foldl (fun ps p => SearchState.putRange p ps) []

theorem rangeCommands_ok {rs : List RangeFlag} (h : ∀ r ∈ rs, c.facetIndex? r.field ≠ none) :
    rangeCommands c rs = .ok ((rs.filterMap (placeRange c)).map fun p => .setRange p.facet p.low p.high) := by
  induction rs with
  | nil => rfl
  | cons r rs ih =>
    obtain ⟨i, hi⟩ := Option.ne_none_iff_exists'.1 (h r (List.mem_cons_self ..))
    simp only [rangeCommands, hi, ih fun q hq => h q (List.mem_cons_of_mem _ hq), placeRange, List.filterMap_cons,
      Option.map_some, List.map_cons]
    rfl

/-- Of the ranges on no facet, the first one is complained about. -/
theorem rangeCommands_error {rs : List RangeFlag} {r : RangeFlag}
    (h : rs.find? (fun r => c.facetIndex? r.field = none) = some r) :
    rangeCommands c rs = .error ("range field '" ++ r.field ++ "' is not a configured facet") := by
  induction rs with
  | nil => cases h
  | cons q rs ih =>
    cases hi : c.facetIndex? q.field with
    | none =>
      rw [List.find?_cons_of_pos (by simpa using hi)] at h
      cases h
      simp only [rangeCommands, hi]
    | some i =>
      rw [List.find?_cons_of_neg (by simp [hi])] at h
      simp only [rangeCommands, hi, ih h]
      rfl

theorem pairwise_placedRanges (rs : List RangeFlag) :
    (placedRanges c rs).Pairwise fun a b => a.facet ≠ b.facet := by
  have hfold : ∀ (ps acc : List FacetRange), (acc.Pairwise fun a b => a.facet ≠ b.facet) →
      (ps.foldl (fun ps p => SearchState.putRange p ps) acc).Pairwise fun a b => a.facet ≠ b.facet := by
    intro ps
    induction ps with
    | nil => exact fun _ h => h
    | cons p ps ih => exact fun acc h => ih _ (SearchState.pairwise_putRange h p)
  exact hfold _ [] .nil

theorem placedRanges_concat (rs : List RangeFlag) (x : RangeFlag) :
    placedRanges c (rs ++ [x]) =
      ((placeRange c x).map (SearchState.putRange · (placedRanges c rs))).getD (placedRanges c rs) := by
  rw [placedRanges, List.filterMap_append, List.foldl_append]
  cases hx : placeRange c x with
  | none => rw [List.filterMap_cons_none hx]; rfl
  | some p => rw [List.filterMap_cons_some hx]; rfl

/-- Of the ranges on a facet the last one is left. -/
theorem mem_placedRanges_iff (hfields : (c.facets.map (·.field)).Nodup) {rs : List RangeFlag} {i : Nat}
    {low high : String} :
    ⟨i, low, high⟩ ∈ placedRanges c rs ↔ ∃ g, c.facets[i]? = some g ∧ LastRange rs ⟨g.field, low, high⟩ := by
  induction rs using List.reverseRecOn with
  | nil =>
    refine ⟨nofun, ?_⟩
    rintro ⟨g, -, before, after, heq, -⟩
    cases before <;> cases heq
  | append_singleton rs x ih =>
    simp only [lastRange_concat]
    rw [placedRanges_concat, placeRange]
    cases hx : c.facetIndex? x.field with
    | none =>
      -- the new range is on no facet, so it neither is the last one on any nor takes the place of another one
      have hother : ∀ g, c.facets[i]? = some g → g.field ≠ x.field := by
        intro g hg heq
        have hnot := List.findIdx?_eq_none_iff.1 hx g (List.mem_of_getElem? hg)
        simp [heq] at hnot
      show _ ∈ placedRanges c rs ↔ _
      rw [ih]
      refine exists_congr fun g => and_congr_right fun hg => ?_
      constructor
      · exact fun h => Or.inr ⟨h, hother g hg⟩
      · rintro (heq | ⟨h, -⟩)
        · exact absurd (congrArg RangeFlag.field heq) (hother g hg)
        · exact h
    | some j =>
      obtain ⟨gj, hgj, hfield⟩ := facet_of_facetIndex? hx
      have hsame : ∀ g, c.facets[i]? = some g → (g.field = x.field ↔ i = j) := by
        intro g hg
        constructor
        · intro heq
          have hi := facetIndex?_eq hfields hg
          rw [heq, hx] at hi
          exact (Option.some.inj hi).symm
        · rintro rfl
          rw [Option.some.inj (hg.symm.trans hgj), hfield]
      show _ ∈ SearchState.putRange ⟨j, x.low, x.high⟩ (placedRanges c rs) ↔ _
      rw [SearchState.mem_putRange_iff (pairwise_placedRanges rs), ih]
      constructor
      · rintro (heq | ⟨⟨g, hg, hlast⟩, hne⟩)
        · cases heq
          exact ⟨gj, hgj, Or.inl (by rw [hfield])⟩
        · exact ⟨g, hg, Or.inr ⟨hlast, fun heq => hne ((hsame g hg).1 heq)⟩⟩
      · rintro ⟨g, hg, heq | ⟨hlast, hne⟩⟩
        · cases heq
          rw [(hsame g hg).1 rfl]
          exact Or.inl rfl
        · exact Or.inr ⟨⟨g, hg, hlast⟩, fun heq => hne ((hsame g hg).2 heq)⟩

/-- Setting ranges goes back to the start. -/
theorem run_setRanges (s : SearchState) (ps : List FacetRange) :
    c.run s (ps.map fun p => .setRange p.facet p.low p.high) =
      { s with
        ranges := ps.foldl (fun ps p => SearchState.putRange p ps) s.ranges
        page := s.page.keptIf (ps = []) } := by
  induction ps generalizing s with
  | nil => rfl
  | cons p ps ih =>
    show c.run (s.setRange p) _ = _
    rw [ih]
    simp [SearchState.setRange, SearchState.rewind, Page.keptIf]

/-! ### Texts, sort keys and the page -/

theorem run_searchField (hnone : s.searchField = none) (field : Option String) :
    c.run s (field.map fun x => Command.setSearchField (some x)).toList =
      { s with
        searchField := field.filter (· ≠ "")
        page := s.page.keptIf (field.filter (· ≠ "") = none) } := by
  obtain ⟨freeText, searchField, sort, page, selections, ranges⟩ := s
  obtain rfl : searchField = none := hnone
  cases field with
  | none => rfl
  | some x =>
    show (SearchState.setSearchField _ (some x)).1 = _
    by_cases hx : x = "" <;>
      simp [SearchState.setSearchField, SearchState.rewind, Option.filter_some, hx, Page.keptIf]

theorem run_freeText (hnone : s.freeText = "") (query : Option String) :
    c.run s (query.map .setFreeText).toList =
      { s with freeText := query.getD "", page := s.page.keptIf (query.getD "" = "") } := by
  obtain ⟨freeText, searchField, sort, page, selections, ranges⟩ := s
  obtain rfl : freeText = "" := hnone
  cases query with
  | none => rfl
  | some x =>
    show (SearchState.setFreeText _ x).1 = _
    by_cases hx : x = ""
    · simp [SearchState.setFreeText, hx, Page.keptIf]
    · simp [SearchState.setFreeText, SearchState.rewind, hx, Ne.symm hx, Page.keptIf]

theorem run_sort (hnone : s.sort = []) (sort : List SortKey) :
    c.run s (if sort.isEmpty then [] else [.setSort sort]) =
      { s with sort, page := s.page.keptIf (sort = []) } := by
  cases sort with
  | nil => simp [run, Page.keptIf, ← hnone]
  | cons k ks =>
    show (s.setSort (k :: ks)).1 = _
    simp [SearchState.setSort, SearchState.rewind, hnone, Page.keptIf]

theorem run_size (size : Option Nat) :
    c.run s (size.map .setPageSize).toList =
      { s with page := { s.page.keptIf (size = none) with size := size.getD s.page.size } } := by
  cases size <;> rfl

theorem run_offset (offset : Option Nat) :
    c.run s (offset.map .setPage).toList = { s with page := { s.page with offset := offset.getD s.page.offset } } := by
  cases offset <;> rfl

/-! ### All flags -/

theorem facetIndex?_eq_none_iff {r : RangeFlag} : c.facetIndex? r.field = none ↔ ¬r.OnFacet c := by
  rw [facetIndex?, List.findIdx?_eq_none_iff, RangeFlag.OnFacet]
  simp

/-- The commands of selection flags whose ranges are on facets. -/
def flagCommands (c : Config) (f : SelectionFlags) : List Command :=
  (f.field.map fun x => Command.setSearchField (some x)).toList ++ (f.query.map .setFreeText).toList ++
    f.filters.map (filterCommand f.orKeys) ++
    (f.ranges.filterMap (placeRange c)).map (fun p => .setRange p.facet p.low p.high) ++
    (if f.sort.isEmpty then [] else [.setSort f.sort]) ++ (f.size.map .setPageSize).toList ++
    (f.offset.map .setPage).toList

theorem selectionCommands_ok {f : SelectionFlags} (h : ∀ r ∈ f.ranges, r.OnFacet c) :
    selectionCommands c f = .ok (flagCommands c f) := by
  rw [selectionCommands, rangeCommands_ok fun r hr hnone => facetIndex?_eq_none_iff.1 hnone (h r hr)]
  rfl

/-- A session carries the commands of flags out on its state. -/
theorem state_flagCommands (s : Session) (f : SelectionFlags) :
    (s.dispatchAll (flagCommands c f)).state = s.config.run s.state (flagCommands c f) := by
  apply Session.state_dispatchAll
  intro cmd hcmd
  simp only [flagCommands, filterCommand, List.mem_append, List.mem_map, Option.mem_toList,
    Option.map_eq_some_iff, or_assoc] at hcmd
  rcases hcmd with ⟨_, -, rfl⟩ | ⟨_, -, rfl⟩ | ⟨_, -, rfl⟩ | ⟨_, -, rfl⟩ | hsort | ⟨_, -, rfl⟩ | ⟨_, -, rfl⟩
  case inr.inr.inr.inr.inl =>
    split at hsort
    · cases hsort
    · rw [List.mem_singleton.1 hsort]
      exact ⟨nofun, nofun⟩
  all_goals exact ⟨nofun, nofun⟩

/-- The state after the commands of selection flags. -/
theorem run_flagCommands (f : SelectionFlags) :
    c.run c.startState (flagCommands c f) =
      { freeText := f.query.getD ""
        searchField := f.field.filter (· ≠ "")
        sort := f.sort
        page :=
          { offset := f.offset.getD (c.paging.keptIf (f.size = none ∧ f.sort = [] ∧
              f.ranges.filterMap (placeRange c) = [] ∧ f.filters = [] ∧ f.query.getD "" = "" ∧
              f.field.filter (· ≠ "") = none)).offset
            size := f.size.getD c.paging.size }
        selections := f.filters.eraseDups.map (filterSelection c f.orKeys)
        ranges := placedRanges c f.ranges } := by
  rw [flagCommands, run_append, run_append, run_append, run_append, run_append, run_append, run_searchField rfl,
    run_freeText rfl, run_filters rfl, run_setRanges, run_sort rfl, run_size, run_offset]
  simp only [Page.keptIf_keptIf]
  rfl

theorem placedRanges_eq_nil_iff {rs : List RangeFlag} :
    placedRanges c rs = [] ↔ rs.filterMap (placeRange c) = [] := by
  have hne : ∀ (p : FacetRange) (ps : List FacetRange), SearchState.putRange p ps ≠ [] := by
    intro p ps
    cases ps with
    | nil => exact List.cons_ne_nil _ _
    | cons q qs =>
      rw [SearchState.putRange]
      split <;> exact List.cons_ne_nil _ _
  rw [placedRanges]
  cases rs.filterMap (placeRange c) using List.reverseRecOn with
  | nil => simp
  | append_singleton ps p => simp [hne]

theorem describe_flagCommands (hfields : (c.facets.map (·.field)).Nodup) (f : SelectionFlags) :
    f.Describe c (c.run c.startState (flagCommands c f)) := by
  have hselections : f.filters.eraseDups.map (filterSelection c f.orKeys) = [] ↔ f.filters = [] := by
    cases f.filters <;> simp [List.eraseDups_cons]
  rw [run_flagCommands]
  refine ⟨rfl, fun i low high => mem_placedRanges_iff hfields, pairwise_placedRanges _, rfl, rfl, rfl, rfl, ?_⟩
  simp only [Page.keptIf, hselections, placedRanges_eq_nil_iff]
  congr 1
  exact if_congr (by tauto) rfl rfl

/-- Flags build the state that they describe, unless one of them bounds a field that is no facet. -/
theorem session_of_flags {sources : List Source} (hmerge : merge sources = .ok c) {f : SelectionFlags}
    (hsource : f.source = none) :
    ((∃ r ∈ f.ranges, ¬r.OnFacet c) → ∃ r, f.ranges.find? (¬·.OnFacet c) = some r ∧
        buildSession c f = .error ("range field '" ++ r.field ++ "' is not a configured facet")) ∧
      ((∀ r ∈ f.ranges, r.OnFacet c) → ∃ s, buildSession c f = .ok s ∧ f.Describe c s.state) := by
  constructor
  · rintro ⟨r, hr, hnot⟩
    obtain ⟨q, hq⟩ : ∃ q, f.ranges.find? (¬·.OnFacet c) = some q :=
      Option.isSome_iff_exists.1 (List.find?_isSome.2 ⟨r, hr, decide_eq_true hnot⟩)
    refine ⟨q, hq, ?_⟩
    simp only [← facetIndex?_eq_none_iff] at hq
    rw [buildSession, selectionCommands, rangeCommands_error hq]
    rfl
  · intro h
    refine ⟨(Session.new c).dispatchAll (flagCommands c f), ?_, ?_⟩
    · rw [buildSession, selectionCommands_ok h, hsource]
      rfl
    · rw [state_flagCommands]
      exact describe_flagCommands (nodup_fields_of_merge hmerge) f

/-- A size that is selected twice, and a year that is bounded twice: the results are no longer those of the configured
page, whose size stays.  One more range, on a field that is no facet, is a failure. -/
theorem session_of_repeated_flags :
    let c : Config := {
      facets := [{ field := "year" }, { field := "size", operator := .or }], paging := ⟨20, 5⟩, root := some "" }
    let f : SelectionFlags := {
      query := some "", filters := [("size", "S"), ("color", "undefined"), ("year", "1999"), ("size", "S")]
      orKeys := ["year"], ranges := [⟨"year", "1990", "2000"⟩, ⟨"size", "1", "2"⟩, ⟨"year", "1995", ""⟩] }
    let g : SelectionFlags := { f with ranges := f.ranges ++ [⟨"price", "1", "9"⟩] }
    merge [⟨"search.toml", {
        facets := some [{ field := some "year" }, { field := some "size", operator := some .or }]
        paging := ⟨some 20, some 5⟩ }⟩] = .ok c ∧
      f.source = none ∧ g.source = none ∧ (∀ r ∈ f.ranges, r.OnFacet c) ∧ (∃ r ∈ g.ranges, ¬r.OnFacet c) ∧
      (∃ s, buildSession c f = .ok s ∧
        s.state.selections = [⟨"size", .term "S", .or⟩, ⟨"color", .undefined, .and⟩, ⟨"year", .term "1999", .or⟩] ∧
        ⟨0, "1995", ""⟩ ∈ s.state.ranges ∧ s.state.page = ⟨0, 5⟩) ∧
      buildSession c g = .error "range field 'price' is not a configured facet" := by
  intro c f g
  have hmerge : merge [⟨"search.toml", {
      facets := some [{ field := some "year" }, { field := some "size", operator := some .or }]
      paging := ⟨some 20, some 5⟩ }⟩] = .ok c := by rfl
  have hplaced : ∀ r ∈ f.ranges, r.OnFacet c := by decide
  have hprice : ∃ r ∈ g.ranges, ¬r.OnFacet c := by decide
  obtain ⟨s, hs, hstate⟩ := (session_of_flags hmerge (f := f) rfl).2 hplaced
  obtain ⟨r, hr, hfault⟩ := (session_of_flags hmerge (f := g) rfl).1 hprice
  have hsize : s.state.selections = _ := hstate.selections
  refine ⟨hmerge, rfl, rfl, hplaced, hprice, ⟨s, hs, hsize.trans (by decide), ?_, ?_⟩, ?_⟩
  · exact (hstate.ranges 0 "1995" "").2 ⟨_, rfl, [⟨"year", "1990", "2000"⟩, ⟨"size", "1", "2"⟩], [], rfl, nofun⟩
  · have hselected : s.state.selections ≠ [] := by
      rw [hsize]
      decide
    have hoffset := hstate.offset
    rw [if_neg fun h => hselected h.1] at hoffset
    exact congrArg₂ Page.mk hoffset hstate.size
  · have hlast : r = ⟨"price", "1", "9"⟩ := Option.some.inj (hr.symm.trans (by decide))
    rw [hfault, hlast]
    rfl

end Config

end FacetedSearch
