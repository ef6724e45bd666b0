import FacetedSearch.Config.Discovery
import FacetedSearch.Proofs.Text.Reading
import FacetedSearch.Proofs.Toml.Tidy

/-!
# Merged configurations

What merging guarantees: no two facets have one field, and every filter is a filter of one of the files.

* `Config.Sound`: what the rest relies on.
* `proper_of_readSource`: the filters of a file that was read are proper values.
* `eq_of_merge`: a merged configuration, part by part.
* `get?_readHierarchies`: each hierarchy with the table that it was read from.
* `sound_of_merge`: a merged configuration is sound, provided that the filters of the files are proper values.
* `sound_of_loadFiles`: the configuration of files that were read is sound.
* `facetIndex?_eq`: a facet is found by its field.
-/

namespace FacetedSearch

namespace Config

/-- Every facet has a field of its own, and the filters that every search carries are proper values. -/
structure Sound (c : Config) : Prop where
  fields : (c.facets.map (·.field)).Nodup
  filters : ∀ e ∈ c.filters, e.2.Proper

/-! ### Facets -/

/-- A list of facets is resolved one by one, each with a field that has not come before. -/
theorem resolveFacets_cons {seen : List String} {index : Nat} {l : FacetLayer} {ls : List FacetLayer} {fs : List Facet}
    (h : resolveFacets seen index (l :: ls) = .ok fs) :
    ∃ f gs, resolveFacet index l = .ok f ∧ f.field ∉ seen ∧ resolveFacets (f.field :: seen) (index + 1) ls = .ok gs ∧
      fs = f :: gs := by
  rw [resolveFacets] at h
  obtain ⟨f, hf, h⟩ := exists_of_bind_eq_ok h
  split at h
  · cases h
  · rename_i hseen
    obtain ⟨gs, hrest, h⟩ := exists_of_bind_eq_ok h
    cases h
    exact ⟨f, gs, hf, by simpa using hseen, hrest, rfl⟩

private theorem nodup_resolveFacets {seen : List String} {index : Nat} {ls : List FacetLayer} {fs : List Facet}
    (h : resolveFacets seen index ls = .ok fs) :
    (fs.map (·.field)).Nodup ∧ ∀ f ∈ fs, f.field ∉ seen := by
  induction ls generalizing seen index fs with
  | nil =>
    cases h
    exact ⟨List.nodup_nil, nofun⟩
  | cons l ls ih =>
    obtain ⟨f, gs, -, hseen, hrest, rfl⟩ := resolveFacets_cons h
    obtain ⟨hnodup, hnew⟩ := ih hrest
    constructor
    · refine List.nodup_cons.2 ⟨fun hmem => ?_, hnodup⟩
      obtain ⟨g, hg, hfield⟩ := List.mem_map.1 hmem
      exact hnew g hg (by rw [hfield]; exact List.mem_cons_self ..)
    · intro g hg
      rcases List.mem_cons.1 hg with rfl | hg
      · exact hseen
      · exact fun hmem => hnew g hg (List.mem_cons_of_mem _ hmem)

/-- A facet is found by its field. -/
theorem facetIndex?_eq {c : Config} (h : (c.facets.map (·.field)).Nodup) {i : Nat} {f : Facet}
    (hf : c.facets[i]? = some f) : c.facetIndex? f.field = some i := by
  obtain ⟨hi, rfl⟩ := List.getElem?_eq_some_iff.1 hf
  rw [facetIndex?, List.findIdx?_eq_some_iff_getElem]
  refine ⟨hi, beq_iff_eq.2 rfl, fun j hj hfield => ?_⟩
  have hmap : (c.facets.map (·.field))[j]? = (c.facets.map (·.field))[i]? := by
    rw [List.getElem?_map, List.getElem?_map, List.getElem?_eq_getElem (Nat.lt_trans hj hi),
      List.getElem?_eq_getElem hi]
    exact congrArg some (beq_iff_eq.1 hfield)
  have hji := (List.getElem?_inj (by rw [List.length_map]; omega) h).1 hmap
  omega

theorem facet_of_facetIndex? {c : Config} {field : String} {i : Nat} (h : c.facetIndex? field = some i) :
    ∃ g, c.facets[i]? = some g ∧ g.field = field := by
  obtain ⟨hi, hfield, -⟩ := List.findIdx?_eq_some_iff_getElem.1 h
  exact ⟨_, List.getElem?_eq_getElem hi, beq_iff_eq.1 hfield⟩

theorem facet?_eq {c : Config} (h : (c.facets.map (·.field)).Nodup) {i : Nat} {f : Facet}
    (hf : c.facets[i]? = some f) : c.facet? f.field = some f := by
  obtain ⟨hi, -, hbefore⟩ := List.findIdx?_eq_some_iff_getElem.1 (facetIndex?_eq h hf)
  obtain ⟨_, hget⟩ := List.getElem?_eq_some_iff.1 hf
  rw [facet?, List.find?_eq_some_iff_getElem]
  exact ⟨beq_iff_eq.2 rfl, i, hi, hget, fun j hj => by simpa using hbefore j hj⟩

/-! ### Filters -/

private theorem mem_addMissing {α : Type} {es new : Entries α} {e : String × α} (h : e ∈ es.addMissing new) :
    e ∈ es ∨ e ∈ new := by
  induction new generalizing es with
  | nil => exact Or.inl h
  | cons d ds ih =>
    rcases ih h with h | h
    · simp only at h
      split at h
      · exact Or.inl h
      · rcases List.mem_append.1 h with h | h
        · exact Or.inl h
        · exact Or.inr (List.mem_singleton.1 h ▸ List.mem_cons_self ..)
    · exact Or.inr (List.mem_cons_of_mem _ h)

private theorem mem_mergeEntries {α : Type} {ls : List Layer} {get : Layer → Entries α} {e : String × α}
    (h : e ∈ mergeEntries ls get) : ∃ l ∈ ls, e ∈ get l := by
  have hfold : ∀ acc : Entries α, e ∈ ls.foldl (fun acc l => Entries.addMissing acc (get l)) acc →
      e ∈ acc ∨ ∃ l ∈ ls, e ∈ get l := by
    clear h
    induction ls with
    | nil => exact fun _ h => Or.inl h
    | cons l ls ih =>
      intro acc h
      rcases ih _ h with h | ⟨m, hm, hmem⟩
      · rcases mem_addMissing h with h | h
        · exact Or.inl h
        · exact Or.inr ⟨l, List.mem_cons_self .., h⟩
      · exact Or.inr ⟨m, List.mem_cons_of_mem _ hm, hmem⟩
  rcases hfold [] h with h | h
  · cases h
  · exact h

/-- The filters of a file that was read repeat no name and hold no double without a value. -/
theorem proper_of_readSource {path text : String} {src : Source} (h : readSource path text = .ok src) :
    ∀ e ∈ src.layer.filters, e.2.Proper := by
  rw [readSource] at h
  split at h
  · rename_i layer hparse
    cases h
    obtain ⟨es, hes, hlayer⟩ := Option.bind_eq_some_iff.1 hparse
    have hfilters : ∃ v, Toml.optional? Toml.jsonEntries? (es.get? "predefined_filters") = some v ∧
        layer.filters = v.getD [] := by
      simp only [Layer.ofEntries, Option.bind_eq_bind, Option.bind_eq_some_iff, Option.pure_def,
        Option.some.injEq] at hlayer
      obtain ⟨_, _, _, _, _, _, _, _, _, _, _, _, _, _, v, hv, _, _, _, _, rfl⟩ := hlayer
      exact ⟨v, hv, rfl⟩
    obtain ⟨v, hv, hlayer⟩ := hfilters
    rw [hlayer]
    -- the section is a table of the file, and its entries are read as JSON
    cases hsection : es.get? "predefined_filters" with
    | none =>
      rw [hsection] at hv
      cases hv
      exact nofun
    | some w =>
      rw [hsection] at hv
      obtain ⟨fs, hfs, rfl⟩ := Option.map_eq_some_iff.1 hv
      cases Toml.tidy_of_parse hes with
      | leaf _ htable => exact absurd rfl (htable es)
      | table _ hentries =>
        have hw := hentries _ (Entries.mem_of_get? hsection)
        cases w with
        | table ds =>
          have hobject : (Toml.table ds).toJson? = some (.obj fs) := by
            rw [Toml.toJson?, show Toml.toJsonEntries? ds = some fs from hfs]
            rfl
          have hproper := Toml.proper_of_toJson? hw hobject
          exact fun e he => hproper.inside (.entry (k := e.1) he)
        | _ => cases hfs
  · cases h

/-! ### Merging -/

/-- A merged configuration, part by part. -/
theorem eq_of_merge {sources : List Source} {c : Config} (hmerge : merge sources = .ok c) :
    ∃ facets hierarchies, mergeFacets (sources.map (·.layer)) = .ok facets ∧
      readHierarchies facets (mergeEntries (sources.map (·.layer)) (·.hierarchies)) = .ok hierarchies ∧
      c = {
        backend := mergeBackend (sources.map (·.layer))
        search := mergeSearch (sources.map (·.layer))
        paging := mergePaging (sources.map (·.layer))
        results := mergeResults (sources.map (·.layer))
        facets
        nested := mergeNested (sources.map (·.layer))
        filters := mergeEntries (sources.map (·.layer)) (·.filters)
        hierarchies
        extraFacets := mergeEntries (sources.map (·.layer)) (·.extraFacets)
        root := sources.head?.bind fun s => Path.parent? s.path } := by
  obtain ⟨facets, hfacets, h⟩ := exists_of_bind_eq_ok hmerge
  obtain ⟨hierarchies, hhierarchies, h⟩ := exists_of_bind_eq_ok h
  cases h
  exact ⟨facets, hierarchies, hfacets, hhierarchies, rfl⟩

/-- The parts of a merged configuration that can be refused, and its filters. -/
theorem parts_of_merge {sources : List Source} {c : Config} (hmerge : merge sources = .ok c) :
    mergeFacets (sources.map (·.layer)) = .ok c.facets ∧
      readHierarchies c.facets (mergeEntries (sources.map (·.layer)) (·.hierarchies)) = .ok c.hierarchies ∧
      c.filters = mergeEntries (sources.map (·.layer)) (·.filters) := by
  obtain ⟨facets, hierarchies, hfacets, hhierarchies, rfl⟩ := eq_of_merge hmerge
  exact ⟨hfacets, hhierarchies, rfl⟩

/-- The hierarchies that were read have the names of their tables, and the hierarchy of a field is read from the table
of the field. -/
theorem get?_readHierarchies {facets : List Facet} {es : Entries Toml} {hs : Entries (List ValueTree)}
    (h : readHierarchies facets es = .ok hs) :
    hs.names = es.names ∧ ∀ field, (hs.get? field).map Except.ok = (es.get? field).map readHierarchy := by
  induction es generalizing hs with
  | nil =>
    cases h
    exact ⟨rfl, fun _ => rfl⟩
  | cons e es ih =>
    obtain ⟨name, v⟩ := e
    rw [readHierarchies] at h
    split at h
    · split at h
      · cases h
      · rename_i ts hread
        obtain ⟨rest, hrest, h⟩ := exists_of_bind_eq_ok h
        cases h
        obtain ⟨hnames, hget⟩ := ih hrest
        refine ⟨congrArg (name :: ·) hnames, fun field => ?_⟩
        rw [Entries.get?_cons, Entries.get?_cons]
        split
        · exact congrArg some hread.symm
        · exact hget field
    · cases h

/-- No two facets of a merged configuration have one field. -/
theorem nodup_fields_of_merge {sources : List Source} {c : Config} (hmerge : merge sources = .ok c) :
    (c.facets.map (·.field)).Nodup :=
  (nodup_resolveFacets (parts_of_merge hmerge).1).1

/-- A merged configuration is sound when the filters of its files are proper, as those of every file that was read
are. -/
theorem sound_of_merge {sources : List Source} {c : Config} (hmerge : merge sources = .ok c)
    (hproper : ∀ src ∈ sources, ∀ e ∈ src.layer.filters, e.2.Proper) : c.Sound := by
  obtain ⟨-, -, hfilters⟩ := parts_of_merge hmerge
  refine ⟨nodup_fields_of_merge hmerge, fun e he => ?_⟩
  rw [hfilters] at he
  obtain ⟨l, hl, hmem⟩ := mem_mergeEntries he
  obtain ⟨src, hsrc, rfl⟩ := List.mem_map.1 hl
  exact hproper src hsrc e hmem

/-- The filters of files that were read are proper. -/
private theorem proper_of_readFiles {t : FileTree} {paths : List String} {sources : List Source}
    (h : readFiles t paths = .ok sources) : ∀ src ∈ sources, ∀ e ∈ src.layer.filters, e.2.Proper := by
  induction paths generalizing sources with
  | nil =>
    cases h
    exact List.forall_mem_nil _
  | cons path paths ih =>
    rw [readFiles] at h
    split at h
    · obtain ⟨text, -, h⟩ := exists_of_bind_eq_ok h
      obtain ⟨source, hsource, h⟩ := exists_of_bind_eq_ok h
      obtain ⟨rest, hrest, h⟩ := exists_of_bind_eq_ok h
      cases h
      exact List.forall_mem_cons.2 ⟨proper_of_readSource hsource, ih hrest⟩
    · cases h

/-- The configuration of files that were read is sound. -/
theorem sound_of_loadFiles {t : FileTree} {paths : List String} {c : Config} (h : loadFiles t paths = .ok c) :
    c.Sound := by
  obtain ⟨sources, hsources, hmerge⟩ := exists_of_bind_eq_ok h
  exact sound_of_merge hmerge (proper_of_readFiles hsources)

end Config

end FacetedSearch
