import FacetedSearch.Proofs.Config.Malformed

/-!
# Layering files that are accepted alone

A file that is accepted alone has sound facets, and hierarchies over its own facets only.  Of several files the facets
of one count and the hierarchies of all, so a hierarchy may lose its facet to a file nearer by.  That is all that can go
wrong between files, each of which is accepted alone.

* `faults_of_accepted`: what is wrong with such files together is a hierarchy without its facet.
* `layered_of_accepted`: when such files can be layered, and what is told otherwise.
* `hidden_facet_refused`: two files that cannot be layered.
-/

namespace FacetedSearch

namespace Config

/-- What one file says alone counts as it stands, its tables with the first value of each key. -/
private theorem faults_of_single {file : Source} (h : ∃ c, merge [file] = .ok c) :
    mergeFaults (file.layer.facets.getD []) (mergeEntries [file.layer] (·.hierarchies)) = [] := by
  obtain ⟨c, hc⟩ := h
  have hnone := (firstFault_merge [file]).eq_nil hc
  simpa [firstSaidOr, firstSaid] using hnone

/-- The facets that count are those of one of the files, so they have no faults of their own. -/
private theorem fieldFaults_of_accepted {files : List Source} (h : ∀ file ∈ files, ∃ c, merge [file] = .ok c) :
    checkEach fieldFault? [] ((firstSaidOr (files.map (·.layer)) (·.facets) []).map (·.facet.field)) = [] := by
  rw [firstSaidOr, firstSaid, List.findSome?_map]
  cases hfound : files.findSome? ((·.facets) ∘ (·.layer)) with
  | none => rfl
  | some facets =>
    obtain ⟨file, hfile, hsays⟩ := List.exists_of_findSome?_eq_some hfound
    have hnone := faults_of_single (h file hfile)
    rw [show file.layer.facets = some facets from hsays] at hnone
    exact (List.append_eq_nil_iff.1 hnone).1

/-- Each table that counts is the first of its key in one of the files, so it has no faults of its own. -/
private theorem treeFaults_of_accepted {files : List Source} (h : ∀ file ∈ files, ∃ c, merge [file] = .ok c) :
    ∀ e ∈ mergeEntries (files.map (·.layer)) (·.hierarchies), e.2.treeFaults = [] := by
  intro e he
  have hnodup : (mergeEntries (files.map (·.layer)) (·.hierarchies)).names.Nodup := nodup_names_mergeEntries ..
  have hget := Entries.get?_of_mem hnodup he
  rw [get?_mergeEntries, List.findSome?_map] at hget
  obtain ⟨file, hfile, hsays⟩ := List.exists_of_findSome?_eq_some hget
  have hmem : (e.1, e.2) ∈ mergeEntries [file.layer] (·.hierarchies) := by
    refine Entries.mem_of_get? ?_
    rw [get?_mergeEntries, List.findSome?_singleton]
    exact hsays
  have hnone := (List.append_eq_nil_iff.1 (faults_of_single (h file hfile))).2
  exact (tableFaults_eq_nil_iff.1 (List.flatMap_eq_nil_iff.1 hnone _ hmem)).2

private theorem tableFaults_of_sound (fields : List String) {tables : Entries Toml}
    (h : ∀ e ∈ tables, e.2.treeFaults = []) :
    tables.flatMap (tableFaults fields) = (tables.names.filter (· ∉ fields)).map .unknownFacet := by
  induction tables with
  | nil => rfl
  | cons e tables ih =>
    have hrest := ih fun d hd => h d (List.mem_cons_of_mem _ hd)
    have hsound : e.2.treeFaults = [] := h e (List.mem_cons_self ..)
    rw [List.flatMap_cons, hrest, tableFaults]
    by_cases hfacet : e.1 ∈ fields <;> simp [Entries.names, hfacet, hsound]

/-- All that is wrong with files that are accepted alone are hierarchies without their facets. -/
theorem faults_of_accepted {files : List Source} (h : ∀ file ∈ files, ∃ c, merge [file] = .ok c) :
    let facets := firstSaidOr (files.map (·.layer)) (·.facets) []
    mergeFaults facets (mergeEntries (files.map (·.layer)) (·.hierarchies)) =
      ((files.flatMap (·.layer.hierarchies.names)).eraseDups.filter (· ∉ facets.map (·.facet.field))).map
        .unknownFacet := by
  intro facets
  rw [mergeFaults, fieldFaults_of_accepted h, List.nil_append, tableFaults_of_sound _ (treeFaults_of_accepted h),
    names_of_files files (·.hierarchies)]

end Config

/-- Files that are accepted alone are accepted together just when every hierarchy has its facet among those that count,
which are those of the first file that lists any.  Otherwise the first hierarchy without its facet is told. -/
theorem layered_of_accepted (files : List Source) (halone : ∀ file ∈ files, ∃ c, Config.merge [file] = .ok c) :
    let facets := firstSaidOr (files.map (·.layer)) (·.facets) []
    let fields := facets.map (·.facet.field)
    Decides files (·.layer.facets) [] facets ∧
      ((∃ c, Config.merge files = .ok c) ↔
        ∀ file ∈ files, ∀ field ∈ file.layer.hierarchies.names, field ∈ fields) ∧
      ∀ fault, Config.merge files = .error fault ↔
        ∃ field, (files.flatMap (·.layer.hierarchies.names)).find? (· ∉ fields) = some field ∧
          fault = .unknownFacet field := by
  intro facets fields
  have hfault : FirstFault _ (Config.merge files) := Config.firstFault_merge files
  rw [Config.faults_of_accepted halone] at hfault
  refine ⟨(Config.prevails_merged files).facets, ?_, fun fault => ?_⟩
  · rw [hfault.exists_ok_iff, List.map_eq_nil_iff, List.filter_eq_nil_iff]
    simp only [List.mem_eraseDups, List.mem_flatMap, decide_eq_true_eq, Classical.not_not]
    exact ⟨fun h file hfile field hfield => h field ⟨file, hfile, hfield⟩,
      fun h field ⟨file, hfile, hfield⟩ => h file hfile field hfield⟩
  · rw [hfault fault, List.head?_map, List.head?_filter, find?_eraseDups, Option.map_eq_some_iff]
    exact exists_congr fun field => and_congr_right' eq_comm

/-- A file near by lists other facets than the two above it, of which one has a hierarchy over a facet that both list. -/
theorem layered_shared_facet :
    let near : Source := ⟨"a/b/.facet.toml", { facets := some [{ field := some "size" }, { field := some " year " }] }⟩
    let above : Source := ⟨"a/.facet.toml", { nested := some ["stats"] }⟩
    let home : Source := ⟨"home/.facet.toml", {
      facets := some [{ field := some "year" }, { field := some "color" }]
      hierarchies := [("year", .table [("1990s", .arr [.str "1998", .str "1999"])])] }⟩
    (∀ file ∈ [near, above, home], ∃ c, Config.merge [file] = .ok c) ∧
      ∃ c, Config.merge [near, above, home] = .ok c := by
  intro near above home
  have halone : ∀ file ∈ [near, above, home], ∃ c, Config.merge [file] = .ok c := by
    simp only [List.forall_mem_cons]
    exact ⟨⟨_, rfl⟩, ⟨_, rfl⟩, ⟨_, rfl⟩, List.forall_mem_nil _⟩
  refine ⟨halone, (layered_of_accepted [near, above, home] halone).2.1.2 ?_⟩
  decide

/-- Each of two files is accepted alone.  The nearer one lists facets of its own, and the hierarchy of the other one is
left without its facet. -/
theorem hidden_facet_refused :
    let near : Source := ⟨"a/b/.facet.toml", { facets := some [{ field := some "size" }] }⟩
    let home : Source := ⟨"home/.facet.toml", {
      facets := some [{ field := some "year" }]
      hierarchies := [("year", .table [("1990s", .arr [.str "1998"])])] }⟩
    (∀ file ∈ [near, home], ∃ c, Config.merge [file] = .ok c) ∧
      Config.merge [near, home] = .error (.unknownFacet "year") ∧ ¬∃ c, Config.merge [near, home] = .ok c := by
  intro near home
  have hfault : Config.merge [near, home] = .error (.unknownFacet "year") := rfl
  refine ⟨?_, hfault, fun ⟨c, hc⟩ => ?_⟩
  · simp only [List.forall_mem_cons]
    exact ⟨⟨_, rfl⟩, ⟨_, rfl⟩, List.forall_mem_nil _⟩
  · rw [hfault] at hc
    cases hc

end FacetedSearch
