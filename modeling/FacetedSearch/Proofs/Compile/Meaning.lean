import FacetedSearch.Proofs.Clause.Meaning
import FacetedSearch.Proofs.Compile.Criteria

/-!
# The meaning of a compiled query

A state constrains records: each selection of an AND key by itself, the OR selections of a key together, each range
on a facet that exists, each filter that every search carries, and the free text.  A constraint on a key under a
nested prefix is about nested objects at that prefix, and all such constraints of one prefix are about the same
object.  The compiled query says exactly this.

* `holds_queryOf`: the meaning of placed clauses, one scope at a time.
* `constrains_iff`: the constraints of a state are the clauses that are placed for it.
* `holds_compile_iff`: the compiled query holds of the records that meet all constraints.
-/

namespace FacetedSearch

universe u

variable {R : Type u}

namespace Reading

/-- Whether a record meets a selection: it has the term, or no value. -/
def Meets (I : Reading R) (x : Selection) (r : R) : Prop :=
  match x.value with
  | .term v => I.term r x.key v
  | .undefined => I.missing r x.key

theorem holds_selection {I : Reading R} {x : Selection} {r : R} : I.Holds x.clause r ↔ I.Meets x r := by
  obtain ⟨key, value, l⟩ := x
  cases value <;> rfl

/-- The group of a key holds when one of the values does, of which there is at least one. -/
theorem holds_oneOf {I : Reading R} {key : String} {vs : List Choice} {r : R} (h : vs ≠ []) :
    I.Holds (Criterion.oneOf key vs).clause r ↔ ∃ v ∈ vs, I.Meets ⟨key, v, .or⟩ r := by
  rw [Criterion.clause, holds_should (by simpa using h)]
  simp only [List.mem_map]
  constructor
  · rintro ⟨_, ⟨v, hv, rfl⟩, hholds⟩
    exact ⟨v, hv, holds_selection.1 hholds⟩
  · rintro ⟨v, hv, hmeets⟩
    exact ⟨_, ⟨v, hv, rfl⟩, holds_selection.2 hmeets⟩

end Reading

/-- The constraints of a state, each with the nested prefix that its key stands under. -/
inductive Constrains (I : Reading R) (c : Config) (s : SearchState) : Option String → (R → Prop) → Prop
  | each {x : Selection} (hx : x ∈ s.selections) (hand : x.logic = .and) :
    Constrains I c s (c.nestedPrefix x.key) (I.Meets x)
  | oneOf {x : Selection} (hx : x ∈ s.selections) (hor : x.logic = .or) :
    Constrains I c s (c.nestedPrefix x.key) fun r =>
      ∃ y ∈ s.selections, y.key = x.key ∧ y.logic = .or ∧ I.Meets y r
  | within {g : FacetRange} {f : Facet} (hg : g ∈ s.ranges) (hf : c.facets[g.facet]? = some f) :
    Constrains I c s (c.nestedPrefix f.field) fun r => I.range r f.field g.low g.high
  | always {name : String} {v : Json} (hv : (name, v) ∈ c.filters) :
    Constrains I c s (c.nestedPrefix name) (I.Holds (.raw v))
  | freeText (htext : isBlankText s.freeText = false) :
    Constrains I c s none fun r =>
      I.text r ⟨fuzzifyText c.search.fuzziness s.freeText, s.searchField, some c.search.operator⟩

namespace Config

/-! ### The meaning of placed clauses -/

private theorem holds_queryHalf {I : Reading R} {cs : List Clause} {r : R} :
    I.Holds (queryHalf cs) r ↔ ∀ q ∈ cs, I.Holds q r := by
  unfold queryHalf
  split
  · simp [Reading.holds_matchAll]
  · simp
  · exact Reading.holds_must

private theorem holds_nestedClauses {I : Reading R} {ps : List Placed} {r : R} :
    (∀ q ∈ nestedClauses ps, I.Holds q r) ↔
      ∀ path, (∃ q, (Place.nested path, q) ∈ ps) →
        ∃ o, I.nested r path o ∧ ∀ q, (Place.nested path, q) ∈ ps → I.Holds q o := by
  have hone : ∀ path, I.Holds (.nested path (.must (Placed.clausesAt (.nested path) ps))) r ↔
      ∃ o, I.nested r path o ∧ ∀ q, (Place.nested path, q) ∈ ps → I.Holds q o := by
    intro path
    simp only [Reading.holds_nested, Reading.holds_must, Placed.mem_clausesAt_iff]
  rw [nestedClauses]
  constructor
  · intro h path hused
    exact (hone path).1 (h _ (List.mem_map.2 ⟨path, Placed.mem_paths_iff.2 hused, rfl⟩))
  · intro h q hq
    obtain ⟨path, hpath, rfl⟩ := List.mem_map.1 hq
    exact (hone path).2 (h path (Placed.mem_paths_iff.1 hpath))

private theorem scope_eq_some_iff {place : Place} {path : String} :
    place.scope = some path ↔ place = .nested path := by
  cases place <;> simp [Place.scope]

private theorem scope_eq_none_iff {place : Place} : place.scope = none ↔ place = .query ∨ place = .filter := by
  cases place <;> simp [Place.scope]

/-- The clauses of the filter half, which stands alone only when it has members. -/
private theorem holds_queryOf_halves {I : Reading R} {ps : List Placed} {r : R} :
    I.Holds (queryOf ps) r ↔
      (∀ q ∈ Placed.clausesAt .query ps ++ nestedClauses ps, I.Holds q r) ∧
        ∀ q ∈ Placed.clausesAt .filter ps, I.Holds q r := by
  rw [queryOf]
  split
  · rename_i hnone
    rw [hnone, holds_queryHalf]
    simp
  · rw [Reading.holds_filtered, holds_queryHalf, Reading.holds_all]

/-- Placed clauses hold when those about the record itself do, and those of each path of one nested object. -/
theorem holds_queryOf {I : Reading R} {ps : List Placed} {r : R} :
    I.Holds (queryOf ps) r ↔
      (∀ x ∈ ps, x.1.scope = none → I.Holds x.2 r) ∧
        ∀ path, (∃ x ∈ ps, x.1.scope = some path) →
          ∃ o, I.nested r path o ∧ ∀ x ∈ ps, x.1.scope = some path → I.Holds x.2 o := by
  have hused : ∀ path, (∃ x ∈ ps, x.1.scope = some path) ↔ ∃ q, (Place.nested path, q) ∈ ps := by
    intro path
    constructor
    · rintro ⟨⟨place, q⟩, hmem, hscope⟩
      cases scope_eq_some_iff.1 hscope
      exact ⟨q, hmem⟩
    · rintro ⟨q, hmem⟩
      exact ⟨_, hmem, rfl⟩
  have hall : ∀ (path : String) (o : R), (∀ x ∈ ps, x.1.scope = some path → I.Holds x.2 o) ↔
      ∀ q, (Place.nested path, q) ∈ ps → I.Holds q o := by
    intro path o
    constructor
    · intro h q hmem
      exact h _ hmem rfl
    · rintro h ⟨place, q⟩ hmem hscope
      cases scope_eq_some_iff.1 hscope
      exact h q hmem
  have hself : (∀ x ∈ ps, x.1.scope = none → I.Holds x.2 r) ↔
      (∀ q ∈ Placed.clausesAt .query ps, I.Holds q r) ∧ ∀ q ∈ Placed.clausesAt .filter ps, I.Holds q r := by
    constructor
    · intro h
      exact ⟨fun q hq => h _ (Placed.mem_clausesAt_iff.1 hq) rfl, fun q hq => h _ (Placed.mem_clausesAt_iff.1 hq) rfl⟩
    · rintro ⟨hq, hf⟩ ⟨place, q⟩ hmem hscope
      rcases scope_eq_none_iff.1 hscope with rfl | rfl
      · exact hq q (Placed.mem_clausesAt_iff.2 hmem)
      · exact hf q (Placed.mem_clausesAt_iff.2 hmem)
  -- the clauses about the record stand in both halves, those of the paths in the first one
  simp only [hused, hall]
  rw [holds_queryOf_halves, hself, List.forall_mem_append, holds_nestedClauses]
  constructor
  · rintro ⟨⟨hq, hn⟩, hf⟩
    exact ⟨⟨hq, hf⟩, hn⟩
  · rintro ⟨⟨hq, hf⟩, hn⟩
    exact ⟨⟨hq, hn⟩, hf⟩

end Config

/-! ### The constraints of a state -/

private theorem meets_alternatives {I : Reading R} {s : SearchState} {key : String} {r : R} :
    (∃ v ∈ s.alternatives key, I.Meets ⟨key, v, .or⟩ r) ↔
      ∃ y ∈ s.selections, y.key = key ∧ y.logic = .or ∧ I.Meets y r := by
  simp only [SearchState.alternatives, SearchState.selectionsFor, List.mem_map, List.mem_filter, beq_iff_eq]
  constructor
  · rintro ⟨_, ⟨⟨key', v, l⟩, ⟨⟨hy, rfl⟩, rfl⟩, rfl⟩, hmeets⟩
    exact ⟨_, hy, rfl, rfl, hmeets⟩
  · rintro ⟨⟨key', v, l⟩, hy, rfl, rfl, hmeets⟩
    exact ⟨v, ⟨_, ⟨⟨hy, rfl⟩, rfl⟩, rfl⟩, hmeets⟩

private theorem holds_group {I : Reading R} {s : SearchState} {x : Selection} (hx : x ∈ s.selections)
    (hor : x.logic = .or) :
    (fun r => ∃ y ∈ s.selections, y.key = x.key ∧ y.logic = .or ∧ I.Meets y r) =
      I.Holds (Criterion.oneOf x.key (s.alternatives x.key)).clause := by
  funext r
  exact propext (meets_alternatives.symm.trans (Reading.holds_oneOf (SearchState.alternatives_ne_nil hx hor)).symm)

private theorem holds_single {I : Reading R} {x : Selection} : I.Meets x = I.Holds x.clause := by
  funext r
  exact propext Reading.holds_selection.symm

theorem constrains_iff {I : Reading R} {c : Config} {s : SearchState} {scope : Option String} {p : R → Prop} :
    Constrains I c s scope p ↔ ∃ x ∈ c.placed s, x.1.scope = scope ∧ p = I.Holds x.2 := by
  have hplaced : ∀ k ∈ c.criteria s, ∃ x ∈ c.placed s, x.1.scope = c.scopeOf k ∧ I.Holds k.clause = I.Holds x.2 :=
    fun k hk => ⟨k.placed c, Config.mem_placed_iff.2 (Or.inl ⟨k, hk, rfl⟩), Config.scope_place c k, rfl⟩
  constructor
  · intro h
    cases h with
    | each hx hand =>
      rw [holds_single]
      exact hplaced (.one _) (Config.mem_criteria_iff.2 (Or.inl ⟨_, hx, hand, rfl⟩))
    | oneOf hx hor =>
      rw [holds_group hx hor]
      exact hplaced _ (Config.mem_criteria_iff.2 (Or.inr (Or.inl ⟨_, hx, hor, rfl⟩)))
    | within hg hf =>
      exact hplaced (.within _ _) (Config.mem_criteria_iff.2 (Or.inr (Or.inr (Or.inl ⟨_, hg, _, hf, rfl⟩))))
    | always hv => exact ⟨_, Config.mem_placed_iff.2 (Or.inr ⟨_, _, hv, rfl⟩), Config.scope_placeFor c _ rfl, rfl⟩
    | freeText htext =>
      have hq : c.textQuery? s =
          some ⟨fuzzifyText c.search.fuzziness s.freeText, s.searchField, some c.search.operator⟩ := by
        rw [Config.textQuery?, htext]
        rfl
      exact hplaced (.text _) (Config.mem_criteria_iff.2 (Or.inr (Or.inr (Or.inr ⟨_, hq, rfl⟩))))
  · rintro ⟨_, hplaced, rfl, rfl⟩
    rcases Config.mem_placed_iff.1 hplaced with ⟨k, hk, rfl⟩ | ⟨name, v, hv, rfl⟩
    · rw [Criterion.placed, Config.scope_place]
      rcases Config.mem_criteria_iff.1 hk with ⟨x, hx, hand, rfl⟩ | ⟨x, hx, hor, rfl⟩ | ⟨g, hg, f, hf, rfl⟩ |
        ⟨q, hq, rfl⟩
      · rw [Criterion.clause, ← holds_single]
        exact .each hx hand
      · rw [← holds_group hx hor]
        exact .oneOf hx hor
      · exact .within hg hf
      · rw [Config.textQuery?] at hq
        split at hq <;> cases hq
        rename_i hblank
        exact .freeText (Bool.eq_false_iff.2 hblank)
    · rw [Config.scope_placeFor c _ rfl]
      exact .always hv

/-- The compiled query holds of a record when the record meets every constraint that stands under no prefix, and for
each prefix with a constraint a single nested object meets all constraints of the prefix. -/
theorem holds_compile_iff (I : Reading R) (c : Config) (s : SearchState) (r : R) :
    I.Holds (c.compile s).query r ↔
      (∀ p, Constrains I c s none p → p r) ∧
        ∀ path, (∃ p, Constrains I c s (some path) p) →
          ∃ o, I.nested r path o ∧ ∀ p, Constrains I c s (some path) p → p o := by
  have hscope : ∀ (scope : Option String) (o : R),
      (∀ p, Constrains I c s scope p → p o) ↔ ∀ x ∈ c.placed s, x.1.scope = scope → I.Holds x.2 o := by
    intro scope o
    simp only [constrains_iff]
    constructor
    · intro h x hx hxs
      exact h _ ⟨x, hx, hxs, rfl⟩
    · rintro h p ⟨x, hx, hxs, rfl⟩
      exact h x hx hxs
  have hused : ∀ path, (∃ p, Constrains I c s (some path) p) ↔ ∃ x ∈ c.placed s, x.1.scope = some path := by
    intro path
    simp only [constrains_iff]
    constructor
    · rintro ⟨_, x, hx, hxs, -⟩
      exact ⟨x, hx, hxs⟩
    · rintro ⟨x, hx, hxs⟩
      exact ⟨_, x, hx, hxs, rfl⟩
  simp only [hscope, hused]
  exact Config.holds_queryOf

end FacetedSearch
