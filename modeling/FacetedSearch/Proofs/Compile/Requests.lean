import FacetedSearch.Proofs.Compile.Places
import FacetedSearch.Proofs.Config.Precedence
import FacetedSearch.Proofs.Config.Prefixes
import FacetedSearch.Proofs.Json.Merging

/-!
# Facet requests and nested scopes

A facet under a nested prefix is counted inside the nested clause of that prefix if the query has one, and else in a
nested clause of its own.  Which of both it is gets decided by looking for the clause in the finished query; this finds
the prefixes of all that was placed, whether in the scoring part or not.

* `Scoped`: something that a state asks for, or a filter, stands under a prefix.
* `hasScope_compileQuery`: the query has a nested clause for a prefix just when something stands under it.
* `names_facetRequests`, `get?_facetRequests`: the requests, by their names.
* `requests_follow_scopes`: the requests of a merged configuration.
-/

namespace FacetedSearch

namespace Clause

theorem hasScopeList_eq_any (path : String) (qs : List Clause) : hasScopeList path qs = qs.any (hasScope path) := by
  induction qs with
  | nil => rfl
  | cons q qs ih => rw [hasScopeList, ih, List.any_cons]

end Clause

namespace Config

/-! ### Scopes of a query -/

/-- Something that a state asks for, or a filter that every search carries, has a path as its longest nested prefix. -/
inductive Scoped (c : Config) (s : SearchState) (path : String) : Prop
  | selection {x : Selection} (hx : x ∈ s.selections) (hunder : c.LongestPrefix x.key path)
  | range {r : FacetRange} {f : Facet} (hr : r ∈ s.ranges) (hf : c.facets[r.facet]? = some f)
    (hunder : c.LongestPrefix f.field path)
  | always {name : String} (hname : name ∈ c.filters.names) (hunder : c.LongestPrefix name path)

theorem placeFor_eq_nested_iff {c : Config} {key path : String} {otherwise : Place} (h : otherwise.scope = none) :
    c.placeFor key otherwise = .nested path ↔ c.LongestPrefix key path := by
  rw [← nestedPrefix_eq_some_iff, placeFor]
  cases c.nestedPrefix key with
  | none =>
    refine iff_of_false (fun heq => ?_) (fun hsome => Option.some_ne_none _ hsome.symm)
    have hplace : otherwise = .nested path := heq
    rw [hplace] at h
    cases h
  | some p => simp

/-- What is placed under a prefix. -/
theorem mem_paths_placed_iff {c : Config} {s : SearchState} {path : String} :
    path ∈ Placed.paths (c.placed s) ↔ c.Scoped s path := by
  rw [Placed.mem_paths_iff]
  constructor
  · rintro ⟨q, hq⟩
    rcases mem_placed_iff.1 hq with ⟨k, hk, heq⟩ | ⟨name, v, hv, heq⟩
    · have hplace : k.place c = .nested path := (congrArg Prod.fst heq).symm
      rcases mem_criteria_iff.1 hk with ⟨x, hx, -, rfl⟩ | ⟨x, hx, -, rfl⟩ | ⟨r, hr, f, hf, rfl⟩ | ⟨t, -, rfl⟩
      · refine .selection hx ((placeFor_eq_nested_iff ?_).1 hplace)
        cases x.value <;> rfl
      · exact .selection hx ((placeFor_eq_nested_iff rfl).1 hplace)
      · exact .range hr hf ((placeFor_eq_nested_iff rfl).1 hplace)
      · cases hplace
    · exact .always (List.mem_map.2 ⟨_, hv, rfl⟩) ((placeFor_eq_nested_iff rfl).1 (congrArg Prod.fst heq).symm)
  · intro h
    have hplaced : ∀ k ∈ c.criteria s, k.place c = .nested path → ∃ q, (Place.nested path, q) ∈ c.placed s :=
      fun k hk hplace => ⟨k.clause, mem_placed_iff.2 (Or.inl ⟨k, hk, by rw [Criterion.placed, hplace]⟩)⟩
    cases h with
    | @selection x hx hunder =>
      cases hl : x.logic with
      | and =>
        refine hplaced (.one x) (mem_criteria_iff.2 (Or.inl ⟨x, hx, hl, rfl⟩)) ((placeFor_eq_nested_iff ?_).2 hunder)
        cases x.value <;> rfl
      | or =>
        exact hplaced (.oneOf x.key (s.alternatives x.key)) (mem_criteria_iff.2 (Or.inr (Or.inl ⟨x, hx, hl, rfl⟩)))
          ((placeFor_eq_nested_iff rfl).2 hunder)
    | @range r f hr hf hunder =>
      exact hplaced (.within r f.field) (mem_criteria_iff.2 (Or.inr (Or.inr (Or.inl ⟨r, hr, f, hf, rfl⟩))))
        ((placeFor_eq_nested_iff rfl).2 hunder)
    | @always name hname hunder =>
      obtain ⟨⟨_, v⟩, hv, rfl⟩ := List.mem_map.1 hname
      exact ⟨.raw v, mem_placed_iff.2 (Or.inr ⟨_, v, hv, by rw [(placeFor_eq_nested_iff rfl).2 hunder]⟩)⟩

theorem hasScope_queryHalf (path : String) (qs : List Clause) :
    (queryHalf qs).hasScope path = qs.any (Clause.hasScope path) := by
  have hmust : ∀ qs, (Clause.must qs).hasScope path = qs.any (Clause.hasScope path) := by
    intro qs
    rw [Clause.must, Clause.hasScope, Clause.hasScopeList_eq_any, Clause.hasScopeList, Bool.or_false]
  unfold queryHalf
  split
  · rfl
  · rfl
  · exact hmust qs

/-- The nested clauses of a query stand side by side in its scoring part, and nowhere else. -/
theorem hasScope_compileQuery {c : Config} {s : SearchState} {path : String} :
    (c.compileQuery s).hasScope path = true ↔ c.Scoped s path := by
  have hquery : (c.compileQuery s).hasScope path = (c.queryPart s).hasScope path := by
    rcases compileQuery_eq c s with ⟨-, h⟩ | ⟨-, h⟩
    · rw [h]
    · rw [h, Clause.hasScope]
  rw [hquery, queryPart, hasScope_queryHalf, List.any_append, Bool.or_eq_true, ← mem_paths_placed_iff, nestedClauses,
    List.any_map, List.any_eq_true, List.any_eq_true]
  constructor
  · rintro (⟨q, hq, hscope⟩ | ⟨p, hp, hscope⟩)
    · cases mem_clausesAt_query_iff.1 hq <;> cases hscope
    · rwa [← beq_iff_eq.1 hscope]
  · exact fun hpath => Or.inr ⟨path, hpath, beq_iff_eq.2 rfl⟩

/-! ### Requests -/

section

variable {c : Config} (hfields : (c.facets.map (·.field)).Nodup) (hextra : c.extraFacets.names.Nodup)

include hfields in
/-- The requests of the facets, before the extra ones are merged in. -/
theorem own_facetRequests (query : Clause) :
    c.facets.foldl (fun acc f => Entries.put acc f.field (c.facetRequest query f)) [] =
      c.facets.map fun f => (f.field, c.facetRequest query f) := by
  have hnames : Entries.names (c.facets.map fun f => (f.field, c.facetRequest query f)) = c.facets.map (·.field) := by
    rw [Entries.names, List.map_map]
    rfl
  have hput := Entries.foldl_put [] (c.facets.map fun f => (f.field, c.facetRequest query f))
    (by rw [hnames]; exact hfields)
  rw [List.foldl_map, List.nil_append] at hput
  exact hput

include hfields hextra

/-- The facets come first, in their order, and the extra requests that belong to none follow in theirs. -/
theorem names_facetRequests (query : Clause) :
    (c.facetRequests query).names =
      c.facets.map (·.field) ++ c.extraFacets.names.filter fun name => name ∉ c.facets.map (·.field) := by
  rw [facetRequests, own_facetRequests hfields, Json.names_mergeInto hextra, Entries.names, List.map_map]
  rfl

/-- A request that no extra one is merged into is the one of its facet. -/
theorem get?_facetRequests (query : Clause) {f : Facet} (hf : f ∈ c.facets) (hown : f.field ∉ c.extraFacets.names) :
    (c.facetRequests query).get? f.field = some (c.facetRequest query f) := by
  rw [facetRequests, own_facetRequests hfields, Json.get?_mergeInto hextra, Entries.get?_eq_none_iff.2 hown]
  refine Entries.get?_of_mem ?_ (List.mem_map.2 ⟨f, hf, rfl⟩)
  rw [Entries.names, List.map_map]
  exact hfields

end

/-- Facet requests match the nested scopes of the query.  For every merged configuration and every state: the facets are
requested in configured order, followed by the extra requests that are not for one of them in theirs.  The request of a
facet that no extra one is for asks for its terms, and says nothing more when the facet stands under no nested prefix;
else it names the longest one, as the scope when a selection, a range on a facet that exists or a filter has the same
longest prefix, and as a nested path of its own when none has. -/
theorem requests_follow_scopes {sources : List Source} {c : Config} (hmerge : merge sources = .ok c)
    (s : SearchState) :
    (c.compile s).facets.names =
        c.facets.map (·.field) ++ c.extraFacets.names.filter (fun name => name ∉ c.facets.map (·.field)) ∧
      ∀ f ∈ c.facets, f.field ∉ c.extraFacets.names →
        ((∀ p ∈ c.nested, isUnder f.field p = false) →
          (c.compile s).facets.get? f.field = some (.obj [("terms", termsRequest f)])) ∧
        ∀ p, c.LongestPrefix f.field p →
          (c.Scoped s p →
            (c.compile s).facets.get? f.field = some (.obj [("terms", termsRequest f), ("scope", .str p)])) ∧
          (¬ c.Scoped s p →
            (c.compile s).facets.get? f.field = some (.obj [("terms", termsRequest f), ("nested", .str p)])) := by
  have hfields : (c.facets.map (·.field)).Nodup := nodup_fields_of_merge hmerge
  have hextra : c.extraFacets.names.Nodup := by
    obtain ⟨_, _, -, -, rfl⟩ := eq_of_merge hmerge
    exact nodup_names_mergeEntries ..
  refine ⟨names_facetRequests hfields hextra _, fun f hf hown => ?_⟩
  have hrequest : (c.compile s).facets.get? f.field = some (c.facetRequest (c.compileQuery s) f) :=
    get?_facetRequests hfields hextra _ hf hown
  rw [hrequest, facetRequest]
  refine ⟨fun hfree => ?_, fun p hp => ⟨fun hscoped => ?_, fun hfree => ?_⟩⟩
  · rw [nestedPrefix_eq_none_iff.2 hfree]
  · rw [nestedPrefix_eq_some_iff.2 hp]
    simp only [hasScope_compileQuery.2 hscoped, if_true]
  · rw [nestedPrefix_eq_some_iff.2 hp]
    simp only [mt hasScope_compileQuery.1 hfree, if_false, Bool.false_eq_true]

/-- A selection of a year opens the nested clause of the statistics, in which the months are then counted too; before
there is one, the months are counted in a clause of their own. -/
theorem months_in_scope_of_year :
    let c : Config := {
      facets := [{ field := "size" }, { field := "stats.month" }], nested := ["stats"],
      extraFacets := [("total", .null)], root := some "" }
    let s : SearchState := { selections := [⟨"stats.year", .term "1999", .or⟩] }
    merge [⟨"search.toml", {
        nested := some ["stats"]
        facets := some [{ field := some "size" }, { field := some "stats.month" }]
        extraFacets := [("total", .null)] }⟩] = .ok c ∧
      (c.compile s).facets.names = ["size", "stats.month", "total"] ∧
      (c.compile s).facets.get? "size" = some (.obj [("terms", termsRequest { field := "size" })]) ∧
      (c.compile s).facets.get? "stats.month" =
        some (.obj [("terms", termsRequest { field := "stats.month" }), ("scope", .str "stats")]) ∧
      (c.compile {}).facets.get? "stats.month" =
        some (.obj [("terms", termsRequest { field := "stats.month" }), ("nested", .str "stats")]) := by
  intro c s
  have hmerge : merge [⟨"search.toml", {
      nested := some ["stats"]
      facets := some [{ field := some "size" }, { field := some "stats.month" }]
      extraFacets := [("total", .null)] }⟩] = .ok c := by rfl
  obtain ⟨hnames, hrequests⟩ := requests_follow_scopes hmerge s
  obtain ⟨hsize, -⟩ := hrequests { field := "size" } (by simp [c]) (by decide)
  obtain ⟨-, hmonth⟩ := hrequests { field := "stats.month" } (by simp [c]) (by decide)
  obtain ⟨-, hstart⟩ := (requests_follow_scopes hmerge {}).2 { field := "stats.month" } (by simp [c]) (by decide)
  have hunder : c.LongestPrefix "stats.month" "stats" := nestedPrefix_eq_some_iff.1 (by decide)
  have hyear : c.LongestPrefix "stats.year" "stats" := nestedPrefix_eq_some_iff.1 (by decide)
  refine ⟨hmerge, hnames, hsize (by decide), (hmonth "stats" hunder).1 (.selection (List.mem_singleton.2 rfl) hyear),
    (hstart "stats" hunder).2 ?_⟩
  rintro (⟨hx, -⟩ | ⟨hr, -, -⟩ | ⟨hname, -⟩)
  · cases hx
  · cases hr
  · cases hname

end Config

end FacetedSearch
