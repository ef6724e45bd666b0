import FacetedSearch.Compile
import FacetedSearch.Proofs.Entries.FirstUse

/-!
# The criteria of a state

A state asks for single things: each selection of an AND key, the group of values of each OR key, each range on a
facet that exists, and the free text.  These are its criteria, in the order in which the query is built.  The clauses
that `Config.placed` puts together are those of the criteria and those of the filters that every search carries.

* `mem_criteria_iff`: the criteria of a state, one kind at a time.
* `placed_eq`: what is placed for a state.
* `mem_paths_iff`, `paths_eq`: the nested paths in use are the scopes of what is placed, in order of first use.
-/

namespace FacetedSearch

/-- The object that a place is about: the nested objects at a path, or the record itself. -/
def Place.scope : Place → Option String
  | .query | .filter => none
  | .nested path => some path

/-- A single thing that a state asks for. -/
inductive Criterion
  | one (x : Selection)
  | oneOf (key : String) (values : List Choice)
  | within (r : FacetRange) (field : String)
  | text (q : TextQuery)
  deriving DecidableEq

namespace Criterion

/-- The clause of a criterion. -/
def clause : Criterion → Clause
  | .one x => x.clause
  | .oneOf key vs => .should (vs.map fun v => Selection.clause ⟨key, v, .or⟩)
  | .within r field => .range field r.low r.high
  | .text q => .text q

/-- The place of a criterion. -/
def place (c : Config) : Criterion → Place
  | .one x => c.placeOfAnd x
  | .oneOf key _ => c.placeFor key .filter
  | .within _ field => c.placeFor field .query
  | .text _ => .query

/-- The clause of a criterion at its place. -/
def placed (c : Config) (k : Criterion) : Placed := (k.place c, k.clause)

end Criterion

/-- The values of a key that are selected with OR. -/
def SearchState.alternatives (s : SearchState) (key : String) : List Choice :=
  ((s.selectionsFor key).filter (·.logic == .or)).map (·.value)

theorem SearchState.alternatives_ne_nil {s : SearchState} {x : Selection} (hx : x ∈ s.selections)
    (hor : x.logic = .or) : s.alternatives x.key ≠ [] := by
  have hmem : x.value ∈ s.alternatives x.key := by
    simp only [alternatives, selectionsFor, List.mem_map, List.mem_filter, beq_iff_eq]
    exact ⟨x, ⟨⟨hx, rfl⟩, hor⟩, rfl⟩
  exact List.ne_nil_of_mem hmem

namespace Config

/-- The criteria of selections in order; an OR key has one where it first occurs. -/
def chosenCriteria (s : SearchState) (seen : List String) : List Selection → List Criterion
  | [] => []
  | x :: xs =>
    match x.logic with
    | .and => .one x :: chosenCriteria s seen xs
    | .or =>
      if seen.contains x.key then chosenCriteria s seen xs
      else .oneOf x.key (s.alternatives x.key) :: chosenCriteria s (x.key :: seen) xs

/-- The criteria of the ranges on facets that exist. -/
def rangeCriteria (c : Config) (rs : List FacetRange) : List Criterion :=
  rs.filterMap fun r => (c.facets[r.facet]?).map fun f => .within r f.field

/-- The query of the free text, unless it is blank. -/
def textQuery? (c : Config) (s : SearchState) : Option TextQuery :=
  if isBlankText s.freeText then none
  else some ⟨fuzzifyText c.search.fuzziness s.freeText, s.searchField, some c.search.operator⟩

/-- The criterion of the free text, unless it is blank. -/
def textCriteria (c : Config) (s : SearchState) : List Criterion := (c.textQuery? s).toList.map .text

/-- The criteria of a state. -/
def criteria (c : Config) (s : SearchState) : List Criterion :=
  chosenCriteria s [] s.selections ++ c.rangeCriteria s.ranges ++ c.textCriteria s

/-! ### What the criteria are -/

theorem chosenCriteria_and {s : SearchState} {seen : List String} {x : Selection} {xs : List Selection}
    (h : x.logic = .and) : chosenCriteria s seen (x :: xs) = .one x :: chosenCriteria s seen xs := by
  simp only [chosenCriteria, h]

theorem chosenCriteria_seen {s : SearchState} {seen : List String} {x : Selection} {xs : List Selection}
    (h : x.logic = .or) (hseen : x.key ∈ seen) : chosenCriteria s seen (x :: xs) = chosenCriteria s seen xs := by
  simp only [chosenCriteria, h, List.contains_eq_mem, hseen, decide_true, if_true]

theorem chosenCriteria_new {s : SearchState} {seen : List String} {x : Selection} {xs : List Selection}
    (h : x.logic = .or) (hnew : x.key ∉ seen) :
    chosenCriteria s seen (x :: xs) =
      .oneOf x.key (s.alternatives x.key) :: chosenCriteria s (x.key :: seen) xs := by
  simp only [chosenCriteria, h, List.contains_eq_mem, hnew, decide_false, Bool.false_eq_true, if_false]

theorem mem_chosenCriteria_iff {s : SearchState} {seen : List String} {xs : List Selection} {k : Criterion} :
    k ∈ chosenCriteria s seen xs ↔
      (∃ x ∈ xs, x.logic = .and ∧ k = .one x) ∨
        ∃ x ∈ xs, x.logic = .or ∧ x.key ∉ seen ∧ k = .oneOf x.key (s.alternatives x.key) := by
  induction xs generalizing seen with
  | nil => simp [chosenCriteria]
  | cons x xs ih =>
    cases hl : x.logic with
    | and =>
      rw [chosenCriteria_and hl]
      simp only [hl, List.mem_cons, ih, exists_eq_or_imp]
      simp only [true_and, reduceCtorEq, false_and, false_or, or_assoc]
    | or =>
      by_cases hseen : x.key ∈ seen
      · rw [chosenCriteria_seen hl hseen]
        simp [hl, hseen, ih]
      · rw [chosenCriteria_new hl hseen]
        simp only [List.mem_cons, ih]
        constructor
        · rintro (rfl | ⟨y, hy, hand, rfl⟩ | ⟨y, hy, hor, hkey, rfl⟩)
          · exact Or.inr ⟨x, Or.inl rfl, hl, hseen, rfl⟩
          · exact Or.inl ⟨y, Or.inr hy, hand, rfl⟩
          · exact Or.inr ⟨y, Or.inr hy, hor, fun h => hkey (Or.inr h), rfl⟩
        · rintro (⟨y, rfl | hy, hand, rfl⟩ | ⟨y, rfl | hy, hor, hkey, rfl⟩)
          · rw [hl] at hand
            cases hand
          · exact Or.inr (Or.inl ⟨y, hy, hand, rfl⟩)
          · exact Or.inl rfl
          · -- a later selection of the same key adds no criterion
            by_cases hxy : y.key = x.key
            · exact Or.inl (by rw [hxy])
            · exact Or.inr (Or.inr ⟨y, hy, hor, by simp [hxy, hkey], rfl⟩)

theorem mem_rangeCriteria_iff {c : Config} {rs : List FacetRange} {k : Criterion} :
    k ∈ c.rangeCriteria rs ↔ ∃ r ∈ rs, ∃ f, c.facets[r.facet]? = some f ∧ k = .within r f.field := by
  simp only [rangeCriteria, List.mem_filterMap, Option.map_eq_some_iff, @eq_comm _ _ k]

theorem mem_textCriteria_iff {c : Config} {s : SearchState} {k : Criterion} :
    k ∈ c.textCriteria s ↔ ∃ q, c.textQuery? s = some q ∧ k = .text q := by
  simp only [textCriteria, List.mem_map, Option.mem_toList, @eq_comm _ _ k]

/-- What a state asks for, one kind at a time. -/
theorem mem_criteria_iff {c : Config} {s : SearchState} {k : Criterion} :
    k ∈ c.criteria s ↔
      (∃ x ∈ s.selections, x.logic = .and ∧ k = .one x) ∨
        (∃ x ∈ s.selections, x.logic = .or ∧ k = .oneOf x.key (s.alternatives x.key)) ∨
          (∃ r ∈ s.ranges, ∃ f, c.facets[r.facet]? = some f ∧ k = .within r f.field) ∨
            ∃ q, c.textQuery? s = some q ∧ k = .text q := by
  simp only [criteria, List.mem_append, mem_chosenCriteria_iff, mem_rangeCriteria_iff, mem_textCriteria_iff,
    List.not_mem_nil, not_false_eq_true, true_and, or_assoc]

/-! ### What is placed -/

private theorem orGroup_eq (s : SearchState) (key : String) :
    orGroup s key = (Criterion.oneOf key (s.alternatives key)).clause := by
  rw [orGroup, Criterion.clause, SearchState.alternatives, List.map_map]
  congr 1
  apply List.map_congr_left
  intro x hx
  have hkey : x.key = key := by
    simp only [SearchState.selectionsFor, List.mem_filter] at hx
    exact beq_iff_eq.1 hx.1.2
  subst hkey
  rfl

theorem placeSelections_eq (c : Config) (s : SearchState) (seen : List String) (xs : List Selection) :
    c.placeSelections s seen xs = (chosenCriteria s seen xs).map (Criterion.placed c) := by
  induction xs generalizing seen with
  | nil => rfl
  | cons x xs ih =>
    cases hl : x.logic with
    | and =>
      rw [chosenCriteria_and hl, List.map_cons, ← ih]
      simp only [placeSelections, hl]
      rfl
    | or =>
      by_cases hseen : x.key ∈ seen
      · rw [chosenCriteria_seen hl hseen, ← ih]
        simp only [placeSelections, hl, List.contains_eq_mem, hseen, decide_true, if_true]
      · rw [chosenCriteria_new hl hseen, List.map_cons, ← ih]
        simp only [placeSelections, hl, List.contains_eq_mem, hseen, decide_false, Bool.false_eq_true, if_false,
          orGroup_eq]
        rfl

theorem placeRanges_eq (c : Config) (rs : List FacetRange) :
    c.placeRanges rs = (c.rangeCriteria rs).map (Criterion.placed c) := by
  rw [placeRanges, rangeCriteria, List.map_filterMap]
  congr 1
  funext r
  cases c.facets[r.facet]? <;> rfl

/-- What is placed for a state: its criteria, with the filters before the free text. -/
theorem placed_eq (c : Config) (s : SearchState) :
    c.placed s =
      (chosenCriteria s [] s.selections ++ c.rangeCriteria s.ranges).map (Criterion.placed c) ++ c.placeFilters ++
        (c.textCriteria s).map (Criterion.placed c) := by
  have htext : ((c.freeTextClause? s).map fun t => (Place.query, t)).toList =
      (c.textCriteria s).map (Criterion.placed c) := by
    rw [freeTextClause?, textCriteria, textQuery?]
    split <;> rfl
  rw [placed, placeSelections_eq, placeRanges_eq, htext, List.map_append]

theorem mem_placed_iff {c : Config} {s : SearchState} {x : Placed} :
    x ∈ c.placed s ↔
      (∃ k ∈ c.criteria s, x = k.placed c) ∨
        ∃ name v, (name, v) ∈ c.filters ∧ x = (c.placeFor name .query, .raw v) := by
  rw [placed_eq, criteria]
  simp only [List.mem_append, List.mem_map, placeFilters, Prod.exists]
  constructor
  · rintro ((⟨k, hk, rfl⟩ | ⟨name, v, hf, rfl⟩) | ⟨k, hk, rfl⟩)
    · exact Or.inl ⟨k, Or.inl hk, rfl⟩
    · exact Or.inr ⟨name, v, hf, rfl⟩
    · exact Or.inl ⟨k, Or.inr hk, rfl⟩
  · rintro (⟨k, hk | hk, rfl⟩ | ⟨name, v, hf, rfl⟩)
    · exact Or.inl (Or.inl ⟨k, hk, rfl⟩)
    · exact Or.inr ⟨k, hk, rfl⟩
    · exact Or.inl (Or.inr ⟨name, v, hf, rfl⟩)

/-! ### The scope of a criterion -/

theorem scope_placeFor (c : Config) (key : String) {otherwise : Place} (h : otherwise.scope = none) :
    (c.placeFor key otherwise).scope = c.nestedPrefix key := by
  rw [placeFor]
  cases c.nestedPrefix key with
  | none => exact h
  | some path => rfl

/-- The prefix that the key of a criterion stands under; a free text has no key. -/
def scopeOf (c : Config) : Criterion → Option String
  | .one x => c.nestedPrefix x.key
  | .oneOf key _ => c.nestedPrefix key
  | .within _ field => c.nestedPrefix field
  | .text _ => none

theorem scope_place (c : Config) (k : Criterion) : (k.place c).scope = c.scopeOf k := by
  cases k with
  | one x =>
    apply scope_placeFor
    cases x.value <;> rfl
  | oneOf key vs => exact scope_placeFor c key rfl
  | within r field => exact scope_placeFor c field rfl
  | text q => rfl

end Config

/-! ### The places in use -/

namespace Placed

/-- The path of a nested place. -/
def path? (x : Placed) : Option String := x.1.scope

theorem mem_clausesAt_iff {place : Place} {ps : List Placed} {q : Clause} :
    q ∈ clausesAt place ps ↔ (place, q) ∈ ps := by
  simp only [clausesAt, List.mem_filterMap, Prod.exists, Option.ite_none_right_eq_some, Option.some.injEq]
  constructor
  · rintro ⟨_, _, hmem, rfl, rfl⟩
    exact hmem
  · exact fun hmem => ⟨place, q, hmem, rfl, rfl⟩

/-- The nested paths in use, each where it first occurs. -/
theorem paths_eq (ps : List Placed) : paths ps = (ps.filterMap path?).eraseDups := by
  rw [← gather_nil, gather, List.foldl_filterMap]
  unfold paths
  congr 1
  funext acc x
  obtain ⟨place, q⟩ := x
  cases place <;> rfl

theorem nodup_paths (ps : List Placed) : (paths ps).Nodup := by
  rw [paths_eq]
  exact nodup_eraseDups _

theorem mem_paths_iff {ps : List Placed} {path : String} : path ∈ paths ps ↔ ∃ q, (Place.nested path, q) ∈ ps := by
  rw [paths_eq, List.mem_eraseDups, List.mem_filterMap]
  constructor
  · rintro ⟨⟨place, q⟩, hmem, hpath⟩
    cases place <;> cases hpath
    exact ⟨q, hmem⟩
  · rintro ⟨q, hmem⟩
    exact ⟨_, hmem, rfl⟩

end Placed

end FacetedSearch
