import FacetedSearch.Proofs.Compile.Criteria

/-!
# The places of a query

The query of a state has a part that scores, with one nested clause for each path in use, and a part that only
filters.  Every clause that is placed for the state goes to one of these places, where the clauses keep their order.

* `compileQuery_eq`: the query out of its two parts.
* `perm_flatMap_filter`, `filter_flatMap_filter`: grouping a list by places.
* `clausesAt_placed`: the clauses at a place.
* `mem_clausesAt_filter_iff`, `mem_clausesAt_query_iff`: what stands in the two parts under no prefix.
* `clauses_perm`: place by place, each clause that is placed stands in the query once.
-/

namespace FacetedSearch

/-! ### Grouping a list -/

section

variable {α β : Type} [DecidableEq β]

/-- Grouping a list by a function keeps its items. -/
theorem perm_flatMap_filter (f : α → β) {bs : List β} (hnodup : bs.Nodup) {l : List α}
    (h : ∀ a ∈ l, f a ∈ bs) : (bs.flatMap fun b => l.filter fun a => f a = b).Perm l := by
  induction bs generalizing l with
  | nil =>
    cases l with
    | nil => exact .nil
    | cons a _ => exact absurd (h a (List.mem_cons_self ..)) List.not_mem_nil
  | cons b bs ih =>
    -- the later groups are the same in the list without the first group, for which the hypothesis is used
    obtain ⟨hb, hnodup⟩ := List.nodup_cons.1 hnodup
    have hrest : (bs.flatMap fun b' => l.filter fun a => f a = b') =
        bs.flatMap fun b' => (l.filter fun a => !decide (f a = b)).filter fun a => f a = b' := by
      rw [List.flatMap_def, List.flatMap_def]
      congr 1
      apply List.map_congr_left
      intro b' hb'
      rw [List.filter_filter]
      apply List.filter_congr
      intro a _
      by_cases ha : f a = b'
      · have hne : b' ≠ b := by
          rintro rfl
          exact hb hb'
        simp [ha, hne]
      · simp [ha]
    rw [List.flatMap_cons, hrest]
    refine ((ih hnodup fun a ha => ?_).append_left _).trans (List.filter_append_perm _ l)
    obtain ⟨hal, hne⟩ := List.mem_filter.1 ha
    rcases List.mem_cons.1 (h a hal) with heq | hmem
    · simp [heq] at hne
    · exact hmem

/-- Within one group, the items keep their order. -/
theorem filter_flatMap_filter (f : α → β) {bs : List β} (hnodup : bs.Nodup) {l : List α}
    (h : ∀ a ∈ l, f a ∈ bs) (b : β) :
    (bs.flatMap fun b' => l.filter fun a => f a = b').filter (fun a => f a = b) = l.filter fun a => f a = b := by
  have hsame : ∀ b', (l.filter fun a => f a = b').filter (fun a => f a = b) =
      if b' = b then l.filter fun a => f a = b else [] := by
    intro b'
    rw [List.filter_filter]
    split
    · rename_i heq
      rw [heq]
      apply List.filter_congr
      intro a _
      exact Bool.and_self _
    · rename_i hne
      rw [List.filter_eq_nil_iff]
      intro a _ hboth
      simp only [Bool.and_eq_true, decide_eq_true_eq] at hboth
      exact hne (hboth.2.symm.trans hboth.1)
  have hfold : ∀ bs : List β, bs.Nodup →
      (bs.flatMap fun b' => if b' = b then l.filter fun a => f a = b else []) =
        if b ∈ bs then l.filter fun a => f a = b else [] := by
    intro bs hbs
    induction bs with
    | nil => rfl
    | cons b' bs ih =>
      obtain ⟨hb', hbs⟩ := List.nodup_cons.1 hbs
      rw [List.flatMap_cons, ih hbs]
      by_cases heq : b' = b
      · subst heq
        simp [hb']
      · have hne : b ≠ b' := fun h => heq h.symm
        simp [heq, hne]
  -- all groups but that of `b` become empty
  rw [List.filter_flatMap]
  simp only [hsame]
  rw [hfold bs hnodup]
  split
  · rfl
  · rename_i hb
    symm
    rw [List.filter_eq_nil_iff]
    intro a ha heq
    exact hb (of_decide_eq_true heq ▸ h a ha)

end

namespace Config

/-! ### The parts of a query -/

/-- The part of a query that scores. -/
def queryPart (c : Config) (s : SearchState) : Clause :=
  queryHalf (Placed.clausesAt .query (c.placed s) ++ nestedClauses (c.placed s))

/-- The part of a query that only filters. -/
def filterPart (c : Config) (s : SearchState) : Clause := .all (Placed.clausesAt .filter (c.placed s))

/-- The clause for the nested objects at a path. -/
def nestedPart (c : Config) (s : SearchState) (path : String) : Clause :=
  .must (Placed.clausesAt (.nested path) (c.placed s))

/-- A query is its scoring part, with the filtering part beside it when there is one. -/
theorem compileQuery_eq (c : Config) (s : SearchState) :
    (Placed.clausesAt .filter (c.placed s) = [] ∧ c.compileQuery s = c.queryPart s) ∨
      (Placed.clausesAt .filter (c.placed s) ≠ [] ∧ c.compileQuery s = .filtered (c.queryPart s) (c.filterPart s)) := by
  rw [compileQuery, queryOf]
  split
  · rename_i hnone
    exact Or.inl ⟨hnone, rfl⟩
  · rename_i hsome
    exact Or.inr ⟨hsome, rfl⟩

/-! ### The clauses at a place -/

/-- The clauses of criteria at a place. -/
private theorem clausesAt_map_placed (c : Config) (place : Place) (ks : List Criterion) :
    Placed.clausesAt place (ks.map (Criterion.placed c)) =
      (ks.filter fun k => k.place c = place).map Criterion.clause := by
  induction ks with
  | nil => rfl
  | cons k ks ih =>
    rw [Placed.clausesAt] at ih ⊢
    rw [List.map_cons, List.filterMap_cons, List.filter_cons, ih]
    by_cases hplace : k.place c = place <;> simp [Criterion.placed, hplace]

theorem clausesAt_append (place : Place) (ps qs : List Placed) :
    Placed.clausesAt place (ps ++ qs) = Placed.clausesAt place ps ++ Placed.clausesAt place qs :=
  List.filterMap_append

/-- The clauses at a place: those of its criteria, with those of its filters before the free text. -/
theorem clausesAt_placed (c : Config) (s : SearchState) (place : Place) :
    Placed.clausesAt place (c.placed s) =
      ((chosenCriteria s [] s.selections ++ c.rangeCriteria s.ranges).filter fun k => k.place c = place).map
          Criterion.clause ++
        Placed.clausesAt place c.placeFilters ++
          ((c.textCriteria s).filter fun k => k.place c = place).map Criterion.clause := by
  rw [placed_eq, clausesAt_append, clausesAt_append, clausesAt_map_placed, clausesAt_map_placed]

theorem mem_clausesAt_placeFilters {c : Config} {place : Place} {q : Clause}
    (h : q ∈ Placed.clausesAt place c.placeFilters) :
    ∃ name v, (name, v) ∈ c.filters ∧ q = .raw v ∧ c.placeFor name .query = place := by
  obtain ⟨⟨name, v⟩, hmem, heq⟩ := List.mem_map.1 (Placed.mem_clausesAt_iff.1 h)
  cases heq
  exact ⟨name, v, hmem, rfl, rfl⟩

/-! ### The two halves -/

theorem placeFor_eq_iff {c : Config} {key : String} {otherwise place : Place} (h : place.scope = none) :
    c.placeFor key otherwise = place ↔ c.nestedPrefix key = none ∧ otherwise = place := by
  rw [placeFor]
  cases c.nestedPrefix key with
  | none => simp
  | some path =>
    have hne : Place.nested path ≠ place := by
      rintro rfl
      cases h
    simp [hne]

/-- What only filters: the groups of OR keys and the missing values of AND keys under no prefix. -/
theorem mem_clausesAt_filter_iff {c : Config} {s : SearchState} {q : Clause} :
    q ∈ Placed.clausesAt .filter (c.placed s) ↔
      ∃ x ∈ s.selections, c.nestedPrefix x.key = none ∧
        (x.logic = .or ∧ q = (Criterion.oneOf x.key (s.alternatives x.key)).clause ∨
          x.logic = .and ∧ x.value = .undefined ∧ q = .missing x.key) := by
  rw [Placed.mem_clausesAt_iff, mem_placed_iff]
  constructor
  · rintro (⟨k, hk, heq⟩ | ⟨name, v, -, heq⟩)
    · obtain ⟨hplace, rfl⟩ := Prod.mk.inj heq
      rcases mem_criteria_iff.1 hk with ⟨⟨key, value, l⟩, hx, hand, rfl⟩ | ⟨x, hx, hor, rfl⟩ | ⟨g, -, f, -, rfl⟩ |
        ⟨t, -, rfl⟩
      · obtain ⟨hfree, hvalue⟩ := (placeFor_eq_iff rfl).1 hplace.symm
        cases value with
        | term v => cases hvalue
        | undefined => exact ⟨_, hx, hfree, Or.inr ⟨hand, rfl, rfl⟩⟩
      · exact ⟨x, hx, ((placeFor_eq_iff rfl).1 hplace.symm).1, Or.inl ⟨hor, rfl⟩⟩
      · cases ((placeFor_eq_iff rfl).1 hplace.symm).2
      · cases hplace
    · cases ((placeFor_eq_iff rfl).1 (Prod.mk.inj heq).1.symm).2
  · rintro ⟨⟨key, value, l⟩, hx, hfree, ⟨hor, rfl⟩ | ⟨hand, rfl, rfl⟩⟩
    · refine Or.inl ⟨_, mem_criteria_iff.2 (Or.inr (Or.inl ⟨_, hx, hor, rfl⟩)), ?_⟩
      rw [Criterion.placed, Criterion.place, (placeFor_eq_iff rfl).2 ⟨hfree, rfl⟩]
    · refine Or.inl ⟨_, mem_criteria_iff.2 (Or.inl ⟨_, hx, hand, rfl⟩), ?_⟩
      rw [Criterion.placed, Criterion.place, placeOfAnd, (placeFor_eq_iff rfl).2 ⟨hfree, rfl⟩]
      rfl

theorem ne_and_of_mem_filter {c : Config} {s : SearchState} {q : Clause}
    (h : q ∈ Placed.clausesAt .filter (c.placed s)) (ds : List Clause) : q ≠ .and ds := by
  obtain ⟨x, -, -, ⟨-, rfl⟩ | ⟨-, -, rfl⟩⟩ := mem_clausesAt_filter_iff.1 h
  · exact Clause.noConfusion
  · exact Clause.noConfusion

/-- A clause that scores for a state: it stands under no prefix, and is not one of those that only filter. -/
inductive Scores (c : Config) (s : SearchState) : Clause → Prop
  | term {key v : String} (hx : ⟨key, .term v, .and⟩ ∈ s.selections) (hfree : c.nestedPrefix key = none) :
    Scores c s (.term key v)
  | range {g : FacetRange} {f : Facet} (hg : g ∈ s.ranges) (hf : c.facets[g.facet]? = some f)
    (hfree : c.nestedPrefix f.field = none) : Scores c s (.range f.field g.low g.high)
  | always {name : String} {v : Json} (hv : (name, v) ∈ c.filters) (hfree : c.nestedPrefix name = none) :
    Scores c s (.raw v)
  | freeText {t : TextQuery} (ht : c.textQuery? s = some t) : Scores c s (.text t)

theorem mem_clausesAt_query_iff {c : Config} {s : SearchState} {q : Clause} :
    q ∈ Placed.clausesAt .query (c.placed s) ↔ c.Scores s q := by
  rw [Placed.mem_clausesAt_iff, mem_placed_iff]
  constructor
  · rintro (⟨k, hk, heq⟩ | ⟨name, v, hv, heq⟩)
    · obtain ⟨hplace, rfl⟩ := Prod.mk.inj heq
      rcases mem_criteria_iff.1 hk with ⟨⟨key, value, l⟩, hx, rfl, rfl⟩ | ⟨x, -, -, rfl⟩ | ⟨g, hg, f, hf, rfl⟩ |
        ⟨t, ht, rfl⟩
      · obtain ⟨hfree, hvalue⟩ := (placeFor_eq_iff rfl).1 hplace.symm
        cases value with
        | term v => exact .term hx hfree
        | undefined => cases hvalue
      · cases ((placeFor_eq_iff rfl).1 hplace.symm).2
      · exact .range hg hf ((placeFor_eq_iff rfl).1 hplace.symm).1
      · exact .freeText ht
    · obtain ⟨hplace, rfl⟩ := Prod.mk.inj heq
      exact .always hv ((placeFor_eq_iff rfl).1 hplace.symm).1
  · intro h
    cases h with
    | term hx hfree =>
      refine Or.inl ⟨_, mem_criteria_iff.2 (Or.inl ⟨_, hx, rfl, rfl⟩), ?_⟩
      rw [Criterion.placed, Criterion.place, placeOfAnd, (placeFor_eq_iff rfl).2 ⟨hfree, rfl⟩]
      rfl
    | range hg hf hfree =>
      refine Or.inl ⟨_, mem_criteria_iff.2 (Or.inr (Or.inr (Or.inl ⟨_, hg, _, hf, rfl⟩))), ?_⟩
      rw [Criterion.placed, Criterion.place, (placeFor_eq_iff rfl).2 ⟨hfree, rfl⟩]
      rfl
    | always hv hfree => exact Or.inr ⟨_, _, hv, by rw [(placeFor_eq_iff rfl).2 ⟨hfree, rfl⟩]⟩
    | freeText ht => exact Or.inl ⟨_, mem_criteria_iff.2 (Or.inr (Or.inr (Or.inr ⟨_, ht, rfl⟩))), rfl⟩

/-! ### All places -/

/-- The places of a query in the order in which it is walked. -/
def places (c : Config) (s : SearchState) : List Place :=
  .query :: (Placed.paths (c.placed s)).map .nested ++ [.filter]

theorem nodup_places (c : Config) (s : SearchState) : (c.places s).Nodup := by
  have hpaths : ((Placed.paths (c.placed s)).map Place.nested).Nodup :=
    List.Pairwise.map _ (fun p q hne heq => hne (Place.nested.inj heq)) (Placed.nodup_paths _)
  rw [places, List.cons_append, List.nodup_cons, List.nodup_append]
  refine ⟨fun hmem => ?_, hpaths, List.pairwise_singleton .., fun p hp q hq => ?_⟩
  · rcases List.mem_append.1 hmem with h | h
    · obtain ⟨path, -, heq⟩ := List.mem_map.1 h
      cases heq
    · cases List.mem_singleton.1 h
  · obtain ⟨path, -, rfl⟩ := List.mem_map.1 hp
    rw [List.mem_singleton.1 hq]
    exact Place.noConfusion

theorem fst_mem_places {c : Config} {s : SearchState} {x : Placed} (hx : x ∈ c.placed s) : x.1 ∈ c.places s := by
  obtain ⟨place, q⟩ := x
  rw [places, List.cons_append, List.mem_cons, List.mem_append, List.mem_map, List.mem_singleton]
  cases place with
  | query => exact Or.inl rfl
  | filter => exact Or.inr (Or.inr rfl)
  | nested path => exact Or.inr (Or.inl ⟨path, Placed.mem_paths_iff.2 ⟨q, hx⟩, rfl⟩)

private theorem clausesAt_eq_map_filter (place : Place) (ps : List Placed) :
    Placed.clausesAt place ps = (ps.filter fun x => x.1 = place).map Prod.snd := by
  rw [Placed.clausesAt, ← List.filterMap_eq_map, List.filterMap_filter]
  congr 1
  funext x
  by_cases hplace : x.1 = place <;> simp [hplace]

/-- Place by place, each clause that is placed for a state stands in its query once. -/
theorem clauses_perm (c : Config) (s : SearchState) :
    ((c.places s).flatMap fun place => Placed.clausesAt place (c.placed s)).Perm ((c.placed s).map Prod.snd) := by
  have hgroups := perm_flatMap_filter Prod.fst (nodup_places c s) fun x hx => fst_mem_places (x := x) hx
  have hmap := hgroups.map Prod.snd
  rw [List.map_flatMap] at hmap
  simpa only [clausesAt_eq_map_filter] using hmap

end Config

end FacetedSearch
