import FacetedSearch.Proofs.Config.Merged
import FacetedSearch.Proofs.Entries.FirstUse

/-!
# The first file that defines a setting

Settings are merged in several ways: some are written over the defaults from the last file to the first, facets come as
a list of one file, tables grow entry by entry and nested prefixes name by name.  In each way it is the first file with
something to say that decides.

* `Decides`: the rule, for one setting.
* `decides_foldr`, `decides_findSome?`: writing over and searching follow the rule.
* `get?_mergeEntries`, `names_mergeEntries`: tables, look-up by look-up and in the order of their names.
* `FirstDefinedWins`: the rule for all settings.
* `merge_first_defined_wins`: merged configurations follow it.
-/

namespace FacetedSearch

/-- The first file that defines a setting decides it; a setting that no file defines has its default. -/
def Decides {α β : Type} (files : List β) (get : β → Option α) (default v : α) : Prop :=
  (∃ above file below, files = above ++ file :: below ∧ (∀ f ∈ above, get f = none) ∧ get file = some v) ∨
    (∀ f ∈ files, get f = none) ∧ v = default

section

variable {α β σ : Type} {get : β → Option α}

theorem decides_findSome? (files : List β) (get : β → Option α) (default : α) :
    Decides files get default ((files.findSome? get).getD default) := by
  cases hfound : files.findSome? get with
  | none => exact Or.inr ⟨List.findSome?_eq_none_iff.1 hfound, rfl⟩
  | some v =>
    obtain ⟨above, file, below, hsplit, hsays, hsilent⟩ := List.findSome?_eq_some_iff.1 hfound
    exact Or.inl ⟨above, file, below, hsplit, hsilent, hsays⟩

/-- When each file writes a setting over, from the last file to the first, the first one that defines it decides. -/
theorem decides_foldr {write : β → σ → σ} (setting : σ → α)
    (hwrite : ∀ file s, setting (write file s) = (get file).getD (setting s)) (files : List β) (s : σ) :
    Decides files get (setting s) (setting (files.foldr write s)) := by
  have hfound : setting (files.foldr write s) = (files.findSome? get).getD (setting s) := by
    induction files with
    | nil => rfl
    | cons file files ih =>
      rw [List.foldr_cons, hwrite, ih, List.findSome?_cons]
      cases get file <;> rfl
  rw [hfound]
  exact decides_findSome? files get (setting s)

end

/-- The facet that a file describes, with defaults for what it leaves out. -/
def FacetLayer.facet (l : FacetLayer) : Facet where
  field := trimmed (l.field.getD "")
  display := l.display
  order := l.order.getD .term
  size := l.size
  minSize := l.minSize
  operator := l.operator.getD .and

/-- Each setting is that of the first file which defines it, or its default.  Facets are those of the first file that
lists any.  Tables have the keys of all files, each with the value of the first file that has it, and filters and extra
facets in the order of first use; nested prefixes are all that are named, in the order of first use.  The directory is
that of the first file. -/
structure FirstDefinedWins (files : List Source) (c : Config) : Prop where
  url : Decides files (·.layer.backend.url.map some) none c.backend.url
  method : Decides files (·.layer.backend.method) .get c.backend.method
  timeout : Decides files (·.layer.backend.timeout) 30 c.backend.timeout
  operator : Decides files (·.layer.search.operator) .or c.search.operator
  fuzziness : Decides files (·.layer.search.fuzziness) .off c.search.fuzziness
  delay : Decides files (·.layer.search.delay) 500 c.search.delay
  addUndefined : Decides files (·.layer.search.addUndefined) false c.search.addUndefined
  pruneZero : Decides files (·.layer.search.pruneZero) true c.search.pruneZero
  shareFacets : Decides files (·.layer.search.shareFacets) false c.search.shareFacets
  offset : Decides files (·.layer.paging.offset) 0 c.paging.offset
  pageSize : Decides files (·.layer.paging.size) 10 c.paging.size
  fields : Decides files (·.layer.results.fields.map some) none c.results.fields
  partialFields : Decides files (·.layer.results.partialFields.map fun es => some (.obj es)) none
    c.results.partialFields
  sortOptions : Decides files (·.layer.results.sortOptions) [] c.results.sortOptions
  facets : ∃ ls, Decides files (·.layer.facets) [] ls ∧ c.facets = ls.map FacetLayer.facet
  nested : c.nested = (files.flatMap (·.layer.nested.getD [])).eraseDups
  filters : ∀ key, Decides files (fun f => (f.layer.filters.get? key).map some) none (c.filters.get? key)
  filterNames : c.filters.names = (files.flatMap (·.layer.filters.names)).eraseDups
  extraFacets : ∀ key, Decides files (fun f => (f.layer.extraFacets.get? key).map some) none (c.extraFacets.get? key)
  extraFacetNames : c.extraFacets.names = (files.flatMap (·.layer.extraFacets.names)).eraseDups
  hierarchies : ∀ field, ∃ v, Decides files (fun f => (f.layer.hierarchies.get? field).map some) none v ∧
    (c.hierarchies.get? field).map Except.ok = v.map readHierarchy
  hierarchyNames : c.hierarchies.names.Nodup ∧
    ∀ field, field ∈ c.hierarchies.names ↔ ∃ f ∈ files, field ∈ f.layer.hierarchies.names
  root : c.root = files.head?.bind fun f => Path.parent? f.path

namespace Config

/-! ### Facets -/

theorem facet_of_resolveFacet {index : Nat} {l : FacetLayer} {f : Facet} (h : resolveFacet index l = .ok f) :
    f = l.facet := by
  rw [resolveFacet] at h
  split at h
  · cases h
  · cases h
    rfl

theorem facets_of_resolveFacets {seen : List String} {index : Nat} {ls : List FacetLayer} {fs : List Facet}
    (h : resolveFacets seen index ls = .ok fs) : fs = ls.map FacetLayer.facet := by
  induction ls generalizing seen index fs with
  | nil =>
    cases h
    rfl
  | cons l ls ih =>
    obtain ⟨f, gs, hf, -, hrest, rfl⟩ := resolveFacets_cons h
    rw [List.map_cons, facet_of_resolveFacet hf, ih hrest]

/-! ### Tables -/

theorem get?_mergeEntries {α : Type} (ls : List Layer) (get : Layer → Entries α) (key : String) :
    Entries.get? (mergeEntries ls get) key = ls.findSome? fun l => (get l).get? key := by
  have hfold : ∀ acc : Entries α, Entries.get? (ls.foldl (fun acc l => Entries.addMissing acc (get l)) acc) key =
      (acc.get? key).or (ls.findSome? fun l => (get l).get? key) := by
    induction ls with
    | nil => exact fun acc => (Option.or_none ..).symm
    | cons l ls ih =>
      intro acc
      rw [List.foldl_cons, ih, Entries.get?_addMissing, Option.or_assoc, List.findSome?_cons]
      cases (get l).get? key <;> rfl
  exact hfold []

theorem names_mergeEntries {α : Type} (ls : List Layer) (get : Layer → Entries α) :
    (mergeEntries ls get).names = (ls.flatMap fun l => (get l).names).eraseDups := by
  have hfold : ∀ acc : Entries α, Entries.names (ls.foldl (fun acc l => Entries.addMissing acc (get l)) acc) =
      gather acc.names (ls.flatMap fun l => (get l).names) := by
    induction ls with
    | nil => exact fun _ => rfl
    | cons l ls ih =>
      intro acc
      rw [List.foldl_cons, ih, Entries.names_addMissing, List.flatMap_cons, gather_append]
  exact (hfold []).trans (gather_nil _)

theorem nodup_names_mergeEntries {α : Type} (ls : List Layer) (get : Layer → Entries α) :
    (mergeEntries ls get).names.Nodup := by
  rw [names_mergeEntries]
  exact nodup_eraseDups _

/-- Of each key, the first file that has it decides its value. -/
theorem decides_entry {α : Type} (files : List Source) (get : Layer → Entries α) (key : String) :
    Decides files (fun f => ((get f.layer).get? key).map some) none
      (Entries.get? (mergeEntries (files.map (·.layer)) get) key) := by
  have hfound : Entries.get? (mergeEntries (files.map (·.layer)) get) key =
      (files.findSome? fun f => ((get f.layer).get? key).map some).getD none := by
    rw [get?_mergeEntries, List.findSome?_map]
    induction files with
    | nil => rfl
    | cons f files ih =>
      rw [List.findSome?_cons, List.findSome?_cons, ih]
      simp only [Function.comp_apply]
      cases (get f.layer).get? key <;> rfl
  rw [hfound]
  exact decides_findSome? ..

theorem names_of_files {α : Type} (files : List Source) (get : Layer → Entries α) :
    (mergeEntries (files.map (·.layer)) get).names = (files.flatMap fun f => (get f.layer).names).eraseDups := by
  rw [names_mergeEntries, List.flatMap_map]

end Config

/-- A setting without a default is written over like one whose default is to be missing. -/
private theorem or_eq_getD {α : Type} (o p : Option α) : o.or p = (o.map some).getD p := by
  cases o <;> rfl

/-- Layered configuration is first-defined-wins. -/
theorem merge_first_defined_wins (files : List Source) (c : Config) (hmerge : Config.merge files = .ok c) :
    FirstDefinedWins files c := by
  obtain ⟨facets, hierarchies, hfacets, hhierarchies, rfl⟩ := Config.eq_of_merge hmerge
  obtain ⟨hnames, hread⟩ := Config.get?_readHierarchies hhierarchies
  have htables : hierarchies.names = (files.flatMap (·.layer.hierarchies.names)).eraseDups :=
    hnames.trans (Config.names_of_files files (·.hierarchies))
  have hlist : (files.findSome? (·.layer.facets)).getD [] = firstSaidOr (files.map (·.layer)) (·.facets) [] := by
    rw [firstSaidOr, firstSaid, List.findSome?_map]
    rfl
  simp only [Config.mergeBackend, Config.mergeSearch, Config.mergePaging, Config.mergeResults, List.foldr_map]
  exact {
    url := decides_foldr BackendSettings.url (fun _ _ => or_eq_getD ..) files {}
    method := decides_foldr BackendSettings.method (fun _ _ => rfl) files {}
    timeout := decides_foldr BackendSettings.timeout (fun _ _ => rfl) files {}
    operator := decides_foldr SearchSettings.operator (fun _ _ => rfl) files {}
    fuzziness := decides_foldr SearchSettings.fuzziness (fun _ _ => rfl) files {}
    delay := decides_foldr SearchSettings.delay (fun _ _ => rfl) files {}
    addUndefined := decides_foldr SearchSettings.addUndefined (fun _ _ => rfl) files {}
    pruneZero := decides_foldr SearchSettings.pruneZero (fun _ _ => rfl) files {}
    shareFacets := decides_foldr SearchSettings.shareFacets (fun _ _ => rfl) files {}
    offset := decides_foldr Page.offset (fun _ _ => rfl) files {}
    pageSize := decides_foldr Page.size (fun _ _ => rfl) files {}
    fields := decides_foldr ResultSettings.fields (fun _ _ => or_eq_getD ..) files {}
    partialFields := decides_foldr ResultSettings.partialFields
      (fun file _ => (or_eq_getD ..).trans (by rw [Option.map_map]; rfl)) files {}
    sortOptions := decides_foldr ResultSettings.sortOptions (fun _ _ => rfl) files {}
    facets := ⟨_, decides_findSome? files _ [], by rw [hlist]; exact Config.facets_of_resolveFacets hfacets⟩
    nested := by
      show gather [] _ = _
      rw [gather_nil, List.flatMap_map]
    filters := Config.decides_entry files (·.filters)
    filterNames := Config.names_of_files files (·.filters)
    extraFacets := Config.decides_entry files (·.extraFacets)
    extraFacetNames := Config.names_of_files files (·.extraFacets)
    hierarchies := fun field => ⟨_, Config.decides_entry files (·.hierarchies) field, hread field⟩
    hierarchyNames := by
      rw [htables]
      refine ⟨nodup_eraseDups _, fun field => ?_⟩
      rw [List.mem_eraseDups, List.mem_flatMap]
    root := rfl }

/-- A file near by, one above it and one for everything: the page size comes from the first, the offset from the second
and the address from the last one; the facets come from the second, the filters and prefixes from all of them. -/
theorem merge_three_files :
    let near : Source := ⟨"a/b/.facet.toml", {
      paging := { size := some 25 }
      nested := some ["stats"]
      filters := [("live", .keyed "term" (.keyed "live" (.bool true)))] }⟩
    let above : Source := ⟨"a/.facet.toml", {
      paging := { offset := some 40, size := some 50 }
      nested := some ["owner", "stats"]
      facets := some [{ field := some " year " }]
      hierarchies := [("year", .table [("1990s", .arr [.str "1998", .str "1999"])])]
      filters := [("open", .keyed "missing" (.keyed "field" (.str "closed")))] }⟩
    let everywhere : Source := ⟨"home/.facet.toml", {
      backend := { url := some "http://localhost/" }
      paging := { offset := some 60 }
      facets := some [{ field := some "size" }]
      filters := [("live", .keyed "missing" (.keyed "field" (.str "live")))] }⟩
    ∃ c, Config.merge [near, above, everywhere] = .ok c ∧ FirstDefinedWins [near, above, everywhere] c ∧
      c.paging = ⟨40, 25⟩ ∧ c.backend.url = some "http://localhost/" ∧ c.facets = [{ field := "year" }] ∧
      c.nested = ["stats", "owner"] ∧ c.filters.names = ["live", "open"] ∧
      c.filters.get? "live" = some (.keyed "term" (.keyed "live" (.bool true))) ∧ c.root = some "a/b" := by
  intro near above everywhere
  have hroot : Path.parent? near.path = some "a/b" := by decide +kernel
  exact ⟨_, rfl, merge_first_defined_wins _ _ rfl, rfl, rfl, rfl, rfl, rfl, rfl, hroot⟩

end FacetedSearch
