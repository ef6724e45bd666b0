import FacetedSearch.Proofs.Config.Precedence
import FacetedSearch.Proofs.Config.Tables

/-!
# Malformed configurations

Only the facets and the hierarchies of a configuration can be refused, and what counts of them is what the files say
together: the facets of one file, and of each key the table of the first file that has it.  Whether that is malformed
says nothing about an order; the faults list everything that is wrong in the order in which it is looked for.

* `Prevails`: what the files say together.
* `Malformed`: what there is to refuse.
* `mergeFaults`: all that is refused, in order.
* `merge_refuses_malformed`: merging fails just on malformed configurations, with the first fault, and what it lets
  through is well formed.
-/

namespace FacetedSearch

/-- The facets are those of the first file that lists any, and the tables have the keys of all files in the order of
first use, each with the value of the first file that has it. -/
structure Prevails (files : List Source) (facets : List FacetLayer) (tables : Entries Toml) : Prop where
  facets : Decides files (·.layer.facets) [] facets
  names : tables.names = (files.flatMap (·.layer.hierarchies.names)).eraseDups
  table : ∀ field, Decides files (fun f => (f.layer.hierarchies.get? field).map some) none (tables.get? field)

/-- What cannot be used: a facet without a field, two facets of one field, a hierarchy over a field without a facet, one
that is no table, one with a part that it cannot hold, and one with two leaves of one label. -/
inductive Malformed (facets : List FacetLayer) (tables : Entries Toml) : Prop
  | noField {l : FacetLayer} (hl : l ∈ facets) (hfield : l.facet.field = "")
  | repeatedField (h : ¬(facets.map (·.facet.field)).Nodup)
  | unknownFacet {e : String × Toml} (he : e ∈ tables) (h : ∀ l ∈ facets, l.facet.field ≠ e.1)
  | noTable {e : String × Toml} (he : e ∈ tables) (h : ∀ es, e.2 ≠ .table es)
  | unfitPart {e : String × Toml} (he : e ∈ tables) {p : Toml.Part} (hp : p ∈ e.2.parts) (h : p.fault? ≠ none)
  | repeatedLeaf {e : String × Toml} (he : e ∈ tables) (h : ¬e.2.leafLabels.Nodup)

/-- What is wrong with a field, after the fields of the facets before it. -/
def fieldFault? (before : List String) (field : String) : Option ConfigFault :=
  if field = "" then some (.noField before.length)
  else if field ∈ before then some (.repeatedFacet field)
  else none

/-- What is wrong with a hierarchy, given the fields of all facets. -/
def tableFaults (fields : List String) (e : String × Toml) : List ConfigFault :=
  if e.1 ∈ fields then e.2.treeFaults.map (.hierarchy e.1) else [.unknownFacet e.1]

/-- All that is wrong: the facets one after the other, and then the hierarchies. -/
def mergeFaults (facets : List FacetLayer) (tables : Entries Toml) : List ConfigFault :=
  let fields := facets.map (·.facet.field)
  checkEach fieldFault? [] fields ++ tables.flatMap (tableFaults fields)

/-! ### Malformed and faulty -/

theorem tableFaults_eq_nil_iff {fields : List String} {e : String × Toml} :
    tableFaults fields e = [] ↔ e.1 ∈ fields ∧ e.2.treeFaults = [] := by
  rw [tableFaults]
  by_cases hfacet : e.1 ∈ fields <;> simp [hfacet]

private theorem fieldFaults_eq_nil_iff {fields : List String} :
    checkEach fieldFault? [] fields = [] ↔ (∀ field ∈ fields, field ≠ "") ∧ fields.Nodup := by
  rw [checkEach_eq_nil_iff, nodup_iff_not_mem_before]
  have hcheck : ∀ before field, fieldFault? before field = none ↔ field ≠ "" ∧ field ∉ before := by
    intro before field
    rw [fieldFault?]
    split
    · simp [*]
    · split <;> simp [*]
  simp only [List.nil_append, hcheck]
  constructor
  · intro h
    refine ⟨fun field hfield => ?_, fun pre x post hsplit => (h pre x post hsplit).2⟩
    obtain ⟨pre, post, hsplit⟩ := List.append_of_mem hfield
    exact (h pre field post hsplit).1
  · rintro ⟨hne, hnew⟩ pre x post hsplit
    refine ⟨hne x ?_, hnew pre x post hsplit⟩
    rw [hsplit]
    exact List.mem_append_right _ (List.mem_cons_self ..)

theorem mergeFaults_eq_nil_iff {facets : List FacetLayer} {tables : Entries Toml} :
    mergeFaults facets tables = [] ↔ ¬Malformed facets tables := by
  rw [mergeFaults, List.append_eq_nil_iff, fieldFaults_eq_nil_iff, List.flatMap_eq_nil_iff]
  constructor
  · rintro ⟨⟨hfields, hnodup⟩, htables⟩ h
    have hsound : ∀ e ∈ tables, e.1 ∈ facets.map (·.facet.field) ∧ e.2.treeFaults = [] := fun e he =>
      tableFaults_eq_nil_iff.1 (htables e he)
    cases h with
    | noField hl hfield => exact hfields _ (List.mem_map_of_mem hl) hfield
    | repeatedField h => exact h hnodup
    | unknownFacet he h =>
      obtain ⟨l, hl, heq⟩ := List.mem_map.1 (hsound _ he).1
      exact h l hl heq
    | noTable he h =>
      obtain ⟨⟨es, hes⟩, -⟩ := Toml.treeFaults_eq_nil_iff.1 (hsound _ he).2
      exact h es hes
    | unfitPart he hp h => exact h ((Toml.treeFaults_eq_nil_iff.1 (hsound _ he).2).2.1 _ hp)
    | repeatedLeaf he h => exact h (Toml.treeFaults_eq_nil_iff.1 (hsound _ he).2).2.2
  · intro h
    refine ⟨⟨fun field hfield hnone => ?_, ?_⟩, fun e he => ?_⟩
    · obtain ⟨l, hl, rfl⟩ := List.mem_map.1 hfield
      exact h (.noField hl hnone)
    · exact Classical.not_not.1 fun hnodup => h (.repeatedField hnodup)
    · have hfacet : e.1 ∈ facets.map (·.facet.field) := Classical.not_not.1 fun hnone =>
        h (.unknownFacet he fun l hl heq => hnone (List.mem_map.2 ⟨l, hl, heq⟩))
      refine tableFaults_eq_nil_iff.2 ⟨hfacet, Toml.treeFaults_eq_nil_iff.2 ?_⟩
      refine ⟨Classical.not_not.1 fun htable => ?_, fun p hp => Classical.not_not.1 fun hfault => ?_, ?_⟩
      · exact h (.noTable he fun es hes => htable ⟨es, hes⟩)
      · exact h (.unfitPart he hp hfault)
      · exact Classical.not_not.1 fun hnodup => h (.repeatedLeaf he hnodup)

namespace Config

/-! ### Merging -/

private theorem resolveFacet_eq (index : Nat) (l : FacetLayer) :
    resolveFacet index l = if l.facet.field = "" then .error (.noField index) else .ok l.facet := by
  rw [resolveFacet]
  by_cases hfield : l.facet.field = ""
  · rw [if_pos hfield]
    exact if_pos (String.isEmpty_iff.2 hfield)
  · rw [if_neg hfield]
    exact if_neg fun hempty => hfield (String.isEmpty_iff.1 hempty)

private theorem firstFault_resolveFacets {seen before : List String} (hseen : ∀ x, x ∈ seen ↔ x ∈ before)
    (ls : List FacetLayer) :
    FirstFault (checkEach fieldFault? before (ls.map (·.facet.field))) (resolveFacets seen before.length ls) := by
  induction ls generalizing seen before with
  | nil => exact .ok _
  | cons l ls ih =>
    rw [List.map_cons, checkEach, resolveFacets, fieldFault?, resolveFacet_eq]
    by_cases hfield : l.facet.field = ""
    · rw [if_pos hfield, if_pos hfield]
      exact .error _ _
    rw [if_neg hfield, if_neg hfield]
    by_cases hrepeated : l.facet.field ∈ before
    · have hcontains : seen.contains l.facet.field = true := List.contains_iff_mem.2 ((hseen _).2 hrepeated)
      simp only [bind, Except.bind, if_pos hrepeated, if_pos hcontains]
      exact .error _ _
    · have hcontains : ¬seen.contains l.facet.field = true := fun h =>
        hrepeated ((hseen _).1 (List.contains_iff_mem.1 h))
      have hrest := (ih (mem_seen_iff hseen l.facet.field)).map (l.facet :: ·)
      rw [List.length_append, List.length_singleton] at hrest
      simpa only [bind, Except.bind, if_neg hrepeated, if_neg hcontains, Option.toList_none, List.nil_append]
        using hrest

private theorem firstFault_readHierarchies (facets : List Facet) (es : Entries Toml) :
    FirstFault (es.flatMap (tableFaults (facets.map (·.field)))) (readHierarchies facets es) := by
  induction es with
  | nil => exact .ok _
  | cons e es ih =>
    obtain ⟨field, v⟩ := e
    have hany : facets.any (·.field == field) = true ↔ field ∈ facets.map (·.field) := by
      simp [List.any_eq_true, List.mem_map]
    rw [List.flatMap_cons, readHierarchies, tableFaults]
    by_cases hfacet : field ∈ facets.map (·.field)
    · have hread := firstFault_readHierarchy v
      rw [if_pos hfacet, if_pos (hany.2 hfacet)]
      cases hv : readHierarchy v with
      | error fault =>
        obtain ⟨rest, hfaults⟩ := hread.eq_cons hv
        rw [hfaults]
        exact .error _ _
      | ok ts =>
        rw [hread.eq_nil hv]
        exact ih.map ((field, ts) :: ·)
    · rw [if_neg hfacet, if_neg (mt hany.1 hfacet)]
      exact .error _ _

theorem firstFault_merge (files : List Source) :
    FirstFault (mergeFaults (firstSaidOr (files.map (·.layer)) (·.facets) [])
      (mergeEntries (files.map (·.layer)) (·.hierarchies))) (merge files) := by
  refine (firstFault_resolveFacets (fun _ => Iff.rfl) _).bind fun facets hfacets => ?_
  have hread := firstFault_readHierarchies facets (mergeEntries (files.map (·.layer)) (·.hierarchies))
  rw [facets_of_resolveFacets hfacets] at hread ⊢
  rw [List.map_map] at hread
  exact hread.map _

theorem prevails_merged (files : List Source) :
    Prevails files (firstSaidOr (files.map (·.layer)) (·.facets) [])
      (mergeEntries (files.map (·.layer)) (·.hierarchies)) where
  facets := by
    rw [firstSaidOr, firstSaid, List.findSome?_map]
    exact decides_findSome? ..
  names := names_of_files files (·.hierarchies)
  table := decides_entry files (·.hierarchies)

/-- Every facet has a field of its own and every hierarchy a facet, and no hierarchy has two leaves of one label. -/
structure WellFormed (c : Config) : Prop where
  named : ∀ f ∈ c.facets, f.field ≠ ""
  distinct : (c.facets.map (·.field)).Nodup
  known : ∀ e ∈ c.hierarchies, ∃ f ∈ c.facets, f.field = e.1
  leaves : ∀ e ∈ c.hierarchies, (ValueTree.leavesList e.2).Nodup

theorem wellFormed_of_merge {files : List Source} {c : Config} (hmerge : merge files = .ok c) :
    c.WellFormed := by
  have hsound := mergeFaults_eq_nil_iff.1 ((firstFault_merge files).eq_nil hmerge)
  obtain ⟨hfacets, hhierarchies, -⟩ := parts_of_merge hmerge
  obtain ⟨hnames, hget⟩ := get?_readHierarchies hhierarchies
  have hfields := facets_of_resolveFacets hfacets
  have hdistinct : c.hierarchies.names.Nodup := by
    rw [hnames]
    exact nodup_names_mergeEntries ..
  -- each hierarchy comes from the table with its name
  have htable : ∀ e ∈ c.hierarchies, ∃ v, (e.1, v) ∈ mergeEntries (files.map (·.layer)) (·.hierarchies) ∧
      readHierarchy v = .ok e.2 := by
    intro e he
    have hread := hget e.1
    rw [Entries.get?_of_mem hdistinct he, Option.map_some] at hread
    obtain ⟨v, hv, hread⟩ := Option.map_eq_some_iff.1 hread.symm
    exact ⟨v, Entries.mem_of_get? hv, hread⟩
  constructor
  · intro f hf hnone
    rw [hfields] at hf
    obtain ⟨l, hl, rfl⟩ := List.mem_map.1 hf
    exact hsound (.noField hl hnone)
  · rw [hfields, List.map_map]
    exact Classical.not_not.1 fun h => hsound (.repeatedField h)
  · intro e he
    obtain ⟨v, hv, -⟩ := htable e he
    refine Classical.not_not.1 fun hnone => hsound (.unknownFacet hv fun l hl heq => hnone ⟨l.facet, ?_, heq⟩)
    rw [hfields]
    exact List.mem_map_of_mem hl
  · intro e he
    obtain ⟨v, -, hread⟩ := htable e he
    exact nodup_leaves_of_readHierarchy hread

end Config

/-- Merging fails just when what the files say together is malformed, and then with the first fault: the facets come one
after the other, then the hierarchies in the order in which their keys were first used.  What merging lets through is
well formed. -/
theorem merge_refuses_malformed (files : List Source) :
    let facets := firstSaidOr (files.map (·.layer)) (·.facets) []
    let tables := Config.mergeEntries (files.map (·.layer)) (·.hierarchies)
    Prevails files facets tables ∧ ((∃ e, Config.merge files = .error e) ↔ Malformed facets tables) ∧
      (∀ e, Config.merge files = .error e ↔ (mergeFaults facets tables).head? = some e) ∧
      ∀ c, Config.merge files = .ok c → c.WellFormed := by
  intro facets tables
  refine ⟨Config.prevails_merged files, ?_, Config.firstFault_merge files, fun c => Config.wellFormed_of_merge⟩
  rw [(Config.firstFault_merge files).exists_error_iff, Ne, mergeFaults_eq_nil_iff, Classical.not_not]

/-- A file near by repeats a leaf and the one above it has a hierarchy over an unknown field.  The first of the two
faults is told, and without the repeated leaf and the second file all is well. -/
theorem merge_repeated_leaf :
    let tree (late : String) : Entries Toml :=
      [("year", .table [("1990s", .arr [.str "1998", .table [("1999", .arr [])]]), ("late", .str late)])]
    let near (late : String) : Source :=
      ⟨"a/b/.facet.toml", { facets := some [{ field := some " year " }], hierarchies := tree late }⟩
    let above : Source := ⟨"a/.facet.toml", { hierarchies := [("size", .table [])] }⟩
    Config.merge [near "1999", above] = .error (.hierarchy "year" (.repeatedLeaf "1999")) ∧
      Malformed [{ field := some " year " }] (tree "1999" ++ [("size", .table [])]) ∧
      ∃ c, Config.merge [near "2000"] = .ok c ∧ c.WellFormed := by
  intro tree near above
  have hfault : Config.merge [near "1999", above] = .error (.hierarchy "year" (.repeatedLeaf "1999")) := rfl
  exact ⟨hfault, (merge_refuses_malformed [near "1999", above]).2.1.1 ⟨_, hfault⟩,
    _, rfl, (merge_refuses_malformed [near "2000"]).2.2.2 _ rfl⟩

end FacetedSearch
