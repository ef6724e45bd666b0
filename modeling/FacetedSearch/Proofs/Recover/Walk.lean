import FacetedSearch.Proofs.Compile.Places
import FacetedSearch.Proofs.Clause.Same
import FacetedSearch.Proofs.Config.Merged
import FacetedSearch.Proofs.Selection.Coherent
import FacetedSearch.Proofs.Text.Fuzzify
import FacetedSearch.Recover

/-!
# Walking a compiled query

Recovery walks the query of a document and gives the commands of each clause, but passes over every clause that equals
one of the filters.  In the query of a state each criterion stands at its place, inside the clauses that enclose the
place, and it is passed over when its own clause or one of these equals a filter.

* `Clause.KeepsShape`: both a query and its reread form are walked in the same way.
* `Criterion.commands`: the commands that a criterion comes back with.
* `Config.skips`: whether the walk passes over a criterion.
* `recoverClause_compileQuery`: the walk gives the commands of the criteria that it does not pass over.
-/

namespace FacetedSearch

namespace Clause

/-- A map of clauses that changes nothing but raw clauses, wherever they stand. -/
structure KeepsShape (g : Clause → Clause) : Prop where
  bool : ∀ m s, g (.bool m s) = .bool (m.map g) (s.map g)
  and : ∀ cs, g (.and cs) = .and (cs.map g)
  nested : ∀ p q, g (.nested p q) = .nested p (g q)
  filtered : ∀ q f, g (.filtered q f) = .filtered (g q) (g f)
  plain : ∀ q : Clause, q.Plain → g q = q

theorem keepsShape_id : KeepsShape id where
  bool m s := by rw [List.map_id, List.map_id]; rfl
  and cs := by rw [List.map_id]; rfl
  nested _ _ := rfl
  filtered _ _ := rfl
  plain _ _ := rfl

theorem keepsShape_reread : KeepsShape reread where
  bool m s := by rw [reread, rereadList_eq_map, rereadList_eq_map]
  and cs := by rw [reread, rereadList_eq_map]
  nested _ _ := rfl
  filtered _ _ := rfl
  plain _ h := h.reread_eq

end Clause

/-! ### Criteria that come back -/

namespace Criterion

/-- The commands that a criterion comes back with. -/
def commands : Criterion → List Command
  | .one x => [.addSelection x.key x.value (some .and)]
  | .oneOf key vs => vs.map fun v => .addSelection key v (some .or)
  | .within r _ => [.setRange r.facet r.low r.high]
  | .text q => Config.recoverText q

/-- What holds of the criteria of every state that commands lead to. -/
def Valid (c : Config) : Criterion → Prop
  | .one x => x.logic = .and ∧ x.value.Readable
  | .oneOf _ vs => vs ≠ [] ∧ ∀ v ∈ vs, v.Readable
  | .within r field => ∃ f, c.facets[r.facet]? = some f ∧ f.field = field
  | .text q =>
    isBlankText q.text = false ∧ fuzzifyText c.search.fuzziness q.text = q.text ∧ q.field ≠ some "" ∧
      q.operator = some c.search.operator

theorem plain_clause (x : Selection) : x.clause.Plain := by
  rw [Selection.clause]
  cases x.value <;> trivial

/-- The clause of a criterion has no raw members. -/
theorem clause_kept {g : Clause → Clause} (hg : Clause.KeepsShape g) (k : Criterion) : g k.clause = k.clause := by
  cases k with
  | one x => exact hg.plain _ (plain_clause x)
  | oneOf key vs =>
    rw [clause, Clause.should, hg.bool, List.map_map]
    congr 1
    apply List.map_congr_left
    intro v _
    exact hg.plain _ (plain_clause _)
  | within r field => exact hg.plain _ trivial
  | text q => exact hg.plain _ trivial

end Criterion

namespace Config

/-- The criteria of a state that commands lead to are valid. -/
theorem valid_of_mem_criteria {c : Config} {s : SearchState} (hs : s.Coherent) (hr : s.Readable) :
    ∀ k ∈ c.criteria s, k.Valid c := by
  intro k hk
  rcases mem_criteria_iff.1 hk with ⟨x, hx, hand, rfl⟩ | ⟨x, hx, hor, rfl⟩ | ⟨r, hr, f, hf, rfl⟩ | ⟨q, hq, rfl⟩
  · exact ⟨hand, hr x hx⟩
  · refine ⟨SearchState.alternatives_ne_nil hx hor, fun v hv => ?_⟩
    simp only [SearchState.alternatives, SearchState.selectionsFor, List.mem_map, List.mem_filter] at hv
    obtain ⟨y, ⟨⟨hy, -⟩, -⟩, rfl⟩ := hv
    exact hr y hy
  · exact ⟨f, hf, rfl⟩
  · rw [textQuery?] at hq
    split at hq
    · cases hq
    · rename_i hblank
      cases hq
      refine ⟨?_, fuzzifyText_fuzzifyText _ _, hs.field, rfl⟩
      rw [isBlankText_fuzzifyText]
      exact Bool.eq_false_iff.2 hblank

/-- A selection that is read from a clause of its kind. -/
private theorem recoverMember_clause {x : Selection} (h : x.value.Readable) :
    recoverMember x.clause = some (.addSelection x.key x.value (some .or)) := by
  obtain ⟨key, value, l⟩ := x
  cases value with
  | term v => rw [Selection.clause, recoverMember, h.ofText_eq]
  | undefined => rfl

/-- The walk gives the commands of a criterion, unless its clause equals a filter. -/
theorem recoverClause_clause {c : Config} (hc : c.Sound) {k : Criterion} (hk : k.Valid c) :
    c.recoverClause k.clause = if c.isImplied k.clause then [] else k.commands := by
  cases k with
  | one x =>
    obtain ⟨key, value, l⟩ := x
    cases value with
    | term v =>
      have hv : Choice.ofText v = .term v := hk.2.ofText_eq
      simp only [Criterion.clause, Selection.clause, recoverClause, hv]
      rfl
    | undefined => rw [Criterion.clause, Selection.clause, recoverClause]; rfl
  | oneOf key vs =>
    have hmembers : (vs.map fun v => Selection.clause ⟨key, v, .or⟩).filterMap recoverMember =
        vs.map fun v => .addSelection key v (some .or) := by
      obtain ⟨-, hreadable⟩ := hk
      induction vs with
      | nil => rfl
      | cons v vs ih =>
        have hv := recoverMember_clause (x := ⟨key, v, .or⟩) (hreadable v (List.mem_cons_self ..))
        rw [List.map_cons, List.filterMap_cons_some hv, ih fun w hw => hreadable w (List.mem_cons_of_mem _ hw)]
        rfl
    rw [Criterion.clause, Clause.should, recoverClause, hmembers]
    rfl
  | within r field =>
    obtain ⟨f, hf, rfl⟩ := hk
    rw [Criterion.clause, recoverClause, facetIndex?_eq hc.fields hf]
    rfl
  | text q => rw [Criterion.clause, recoverClause]; rfl

/-! ### The clauses around a place -/

/-- The clauses of a query that a place stands in, from the outside. -/
def enclosing (c : Config) (s : SearchState) : Place → List Clause
  | .query => [c.compileQuery s, c.queryPart s]
  | .filter => [c.compileQuery s, c.filterPart s]
  | .nested path => [c.compileQuery s, c.queryPart s, .nested path (c.nestedPart s path), c.nestedPart s path]

/-- Whether the walk passes over a criterion: its clause, or one around it, equals a filter. -/
def skips (c : Config) (g : Clause → Clause) (s : SearchState) (k : Criterion) : Bool :=
  c.isImplied k.clause || (c.enclosing s (k.place c)).any fun q => c.isImplied (g q)

/-- The criteria at a place. -/
def criteriaAt (c : Config) (s : SearchState) (place : Place) : List Criterion :=
  (c.criteria s).filter fun k => k.place c = place

/-- The criteria in the order in which a query is walked. -/
def walkOrder (c : Config) (s : SearchState) : List Criterion :=
  c.criteriaAt s .query ++ (Placed.paths (c.placed s)).flatMap (fun path => c.criteriaAt s (.nested path)) ++
    c.criteriaAt s .filter

/-- The criteria that the walk gives back. -/
def recovered (c : Config) (g : Clause → Clause) (s : SearchState) : List Criterion :=
  (c.walkOrder s).filter fun k => !c.skips g s k

/-! ### The walk -/

section

variable {c : Config} {g : Clause → Clause} {s : SearchState}

/-- The commands of the criteria at a place, one by one. -/
private def commandsAt (c : Config) (s : SearchState) (place : Place) : List Command :=
  (c.criteriaAt s place).flatMap fun k => if c.isImplied k.clause then [] else k.commands

/-- The walk over the clauses at a place: filters give nothing, criteria what is theirs. -/
private theorem recoverList_clausesAt (hc : c.Sound) (hg : Clause.KeepsShape g)
    (hraw : ∀ e ∈ c.filters, c.recoverClause (g (.raw e.2)) = []) (hvalid : ∀ k ∈ c.criteria s, k.Valid c)
    (place : Place) : c.recoverList ((Placed.clausesAt place (c.placed s)).map g) = commandsAt c s place := by
  have hcriteria : ∀ ks : List Criterion, (∀ k ∈ ks, k.Valid c) →
      ((ks.map Criterion.clause).map g).flatMap c.recoverClause =
        ks.flatMap fun k => if c.isImplied k.clause then [] else k.commands := by
    intro ks hks
    induction ks with
    | nil => rfl
    | cons k ks ih =>
      rw [List.map_cons, List.map_cons, List.flatMap_cons, List.flatMap_cons, k.clause_kept hg,
        recoverClause_clause hc (hks k (List.mem_cons_self ..)), ih fun l hl => hks l (List.mem_cons_of_mem _ hl)]
  have hfilters : ((Placed.clausesAt place c.placeFilters).map g).flatMap c.recoverClause = [] := by
    rw [List.flatMap_eq_nil_iff]
    intro q hq
    obtain ⟨r, hr, rfl⟩ := List.mem_map.1 hq
    obtain ⟨name, v, hv, rfl, -⟩ := mem_clausesAt_placeFilters hr
    exact hraw (name, v) hv
  have hchosen : ∀ k ∈ chosenCriteria s [] s.selections ++ c.rangeCriteria s.ranges, k.Valid c :=
    fun k hk => hvalid k (List.mem_append_left _ hk)
  have htext : ∀ k ∈ c.textCriteria s, k.Valid c := fun k hk => hvalid k (List.mem_append_right _ hk)
  rw [recoverList_eq_flatMap, clausesAt_placed, List.map_append, List.map_append, List.flatMap_append,
    List.flatMap_append, hfilters, hcriteria _ fun k hk => hchosen k (List.mem_filter.1 hk).1,
    hcriteria _ fun k hk => htext k (List.mem_filter.1 hk).1, List.append_nil, ← List.flatMap_append,
    ← List.filter_append]
  rfl

/-- The criteria at a place that are not passed over: none when a clause around the place equals a filter. -/
private theorem flatMap_kept (place : Place) :
    ((c.criteriaAt s place).filter fun k => !c.skips g s k).flatMap Criterion.commands =
      if (c.enclosing s place).any fun q => c.isImplied (g q) then [] else commandsAt c s place := by
  have hplace : ∀ k ∈ c.criteriaAt s place, k.place c = place := fun k hk =>
    of_decide_eq_true (List.mem_filter.1 hk).2
  rw [commandsAt]
  generalize c.criteriaAt s place = ks at hplace
  induction ks with
  | nil =>
    split <;> rfl
  | cons k ks ih =>
    have hk : k.place c = place := hplace k (List.mem_cons_self ..)
    have ih := ih fun l hl => hplace l (List.mem_cons_of_mem _ hl)
    by_cases hout : (c.enclosing s place).any fun q => c.isImplied (g q)
    · rw [if_pos hout] at ih ⊢
      rw [List.filter_cons_of_neg (by rw [skips, hk, hout, Bool.or_true]; decide)]
      exact ih
    · rw [if_neg hout] at ih ⊢
      have hskips : c.skips g s k = c.isImplied k.clause := by
        rw [skips, hk, Bool.eq_false_iff.2 hout, Bool.or_false]
      by_cases himplied : c.isImplied k.clause
      · rw [List.filter_cons_of_neg (by rw [hskips, himplied]; decide), ih, List.flatMap_cons, if_pos himplied,
          List.nil_append]
      · rw [List.filter_cons_of_pos (by rw [hskips, Bool.eq_false_iff.2 himplied]; decide), List.flatMap_cons, ih,
          List.flatMap_cons, if_neg himplied]

private theorem recoverClause_must (hg : Clause.KeepsShape g) (cs : List Clause) :
    c.recoverClause (g (.must cs)) = if c.isImplied (g (.must cs)) then [] else c.recoverList (cs.map g) := by
  have hmust : g (.must cs) = .bool (cs.map g) [] := hg.bool cs []
  rw [hmust, recoverClause, List.filterMap_nil, List.append_nil]

/-- A clause that stands alone is walked like a group of one. -/
private theorem recoverClause_single (q : Clause) :
    c.recoverClause q = if c.isImplied q then [] else c.recoverList [q] := by
  by_cases himplied : c.isImplied q
  · rw [if_pos himplied, recoverClause.eq_def, if_pos himplied]
  · rw [if_neg himplied, recoverList, recoverList, List.append_nil]

private theorem recoverClause_queryHalf (hg : Clause.KeepsShape g) (cs : List Clause) :
    c.recoverClause (g (queryHalf cs)) =
      if c.isImplied (g (queryHalf cs)) then [] else c.recoverList (cs.map g) := by
  unfold queryHalf
  split
  · rw [hg.plain .matchAll trivial, recoverClause]
    rfl
  · rw [List.map_cons, List.map_nil]
    exact recoverClause_single _
  · exact recoverClause_must hg _

private theorem recoverClause_all (hg : Clause.KeepsShape g) {cs : List Clause} (hcs : ∀ q ∈ cs, ∀ ds, q ≠ .and ds) :
    c.recoverClause (g (.all cs)) = if c.isImplied (g (.all cs)) then [] else c.recoverList (cs.map g) := by
  rw [Clause.all, Clause.flatMap_conjuncts hcs]
  split
  · exact recoverClause_single _
  · rw [hg.and, recoverClause]

/-- The walk over the clauses for nested objects, path by path. -/
private theorem recoverList_nestedClauses (hc : c.Sound) (hg : Clause.KeepsShape g)
    (hraw : ∀ e ∈ c.filters, c.recoverClause (g (.raw e.2)) = []) (hvalid : ∀ k ∈ c.criteria s, k.Valid c) :
    c.recoverList ((nestedClauses (c.placed s)).map g) =
      (Placed.paths (c.placed s)).flatMap fun path =>
        if c.isImplied (g (.nested path (c.nestedPart s path))) || c.isImplied (g (c.nestedPart s path)) then []
        else commandsAt c s (.nested path) := by
  rw [recoverList_eq_flatMap, nestedClauses, List.map_map, List.flatMap_map]
  congr 1
  funext path
  show c.recoverClause (g (.nested path (c.nestedPart s path))) = _
  have hinner := recoverClause_must (c := c) hg (Placed.clausesAt (.nested path) (c.placed s))
  rw [recoverList_clausesAt hc hg hraw hvalid] at hinner
  by_cases houter : c.isImplied (g (.nested path (c.nestedPart s path)))
  · rw [recoverClause.eq_def, if_pos houter, houter]
    rfl
  · rw [Bool.eq_false_iff.2 houter, Bool.false_or]
    rw [hg.nested] at houter ⊢
    rw [recoverClause, if_neg houter]
    exact hinner

/-- The walk over the query of a state gives the commands of the criteria that it does not pass over. -/
theorem recoverClause_compileQuery (hc : c.Sound) (hg : Clause.KeepsShape g)
    (hraw : ∀ e ∈ c.filters, c.recoverClause (g (.raw e.2)) = []) (hvalid : ∀ k ∈ c.criteria s, k.Valid c) :
    c.recoverClause (g (c.compileQuery s)) = (c.recovered g s).flatMap Criterion.commands := by
  have hquery : c.recoverClause (g (c.queryPart s)) =
      if c.isImplied (g (c.queryPart s)) then []
      else commandsAt c s .query ++ (Placed.paths (c.placed s)).flatMap fun path =>
        if c.isImplied (g (.nested path (c.nestedPart s path))) || c.isImplied (g (c.nestedPart s path)) then []
        else commandsAt c s (.nested path) := by
    rw [queryPart, recoverClause_queryHalf hg, List.map_append, recoverList_eq_flatMap, List.flatMap_append,
      ← recoverList_eq_flatMap, ← recoverList_eq_flatMap, recoverList_clausesAt hc hg hraw hvalid,
      recoverList_nestedClauses hc hg hraw hvalid]
  have hfilter : c.recoverClause (g (c.filterPart s)) =
      if c.isImplied (g (c.filterPart s)) then [] else commandsAt c s .filter := by
    rw [filterPart, recoverClause_all hg fun q hq => ne_and_of_mem_filter hq, recoverList_clausesAt hc hg hraw hvalid]
  rw [recovered, walkOrder, List.filter_append, List.filter_append, List.filter_flatMap, List.flatMap_append,
    List.flatMap_append, List.flatMap_assoc]
  simp only [flatMap_kept, enclosing, List.any_cons, List.any_nil, Bool.or_false]
  by_cases hwhole : c.isImplied (g (c.compileQuery s))
  · rw [recoverClause.eq_def, if_pos hwhole]
    simp [hwhole]
  · simp only [Bool.eq_false_iff.2 hwhole, Bool.false_or]
    -- past the whole query, the parts are walked one after the other
    have hparts : c.recoverClause (g (c.compileQuery s)) =
        c.recoverClause (g (c.queryPart s)) ++ c.recoverClause (g (c.filterPart s)) := by
      rcases compileQuery_eq c s with ⟨hnone, hwhole'⟩ | ⟨-, hwhole'⟩
      · have hempty : c.recoverClause (g (c.filterPart s)) = [] := by
          have hnil : ∀ q ∈ ([] : List Clause), ∀ ds, q ≠ .and ds := nofun
          rw [filterPart, hnone, recoverClause_all hg hnil, List.map_nil, recoverList]
          split <;> rfl
        rw [hwhole', hempty, List.append_nil]
      · rw [hwhole', hg.filtered] at hwhole ⊢
        rw [recoverClause, if_neg hwhole]
    rw [hparts, hquery, hfilter]
    by_cases hpart : c.isImplied (g (c.queryPart s))
    · simp [hpart]
    · simp [hpart]

end

/-! ### Before and after writing -/

theorem isImplied_iff {c : Config} {q : Clause} :
    c.isImplied q = true ↔ ∃ e ∈ c.filters, (Clause.ofJson e.2).same q = true := by
  rw [isImplied, List.any_eq_true]
  constructor
  · rintro ⟨p, hp, hsame⟩
    obtain ⟨e, he, rfl⟩ := List.mem_map.1 hp
    exact ⟨e, he, hsame⟩
  · rintro ⟨e, he, hsame⟩
    exact ⟨_, List.mem_map.2 ⟨e, he, rfl⟩, hsame⟩

/-- A filter equals itself once it is read. -/
theorem isImplied_filter {c : Config} (hc : c.Sound) {e : String × Json} (he : e ∈ c.filters) :
    c.isImplied (.ofJson e.2) = true :=
  isImplied_iff.2 ⟨e, he, Clause.same_ofJson e.2 (hc.filters e he)⟩

/-- A clause that equals a filter equals it still when it is reread. -/
theorem isImplied_reread {c : Config} (hc : c.Sound) {q : Clause} (h : c.isImplied q = true) :
    c.isImplied q.reread = true := by
  obtain ⟨e, he, hsame⟩ := isImplied_iff.1 h
  rw [Clause.reread_of_same e.2 (hc.filters e he) hsame]
  exact h

/-- What is passed over in a query that was never written is passed over in the reread one. -/
theorem skips_reread {c : Config} (hc : c.Sound) {s : SearchState} {k : Criterion} (h : c.skips id s k = true) :
    c.skips Clause.reread s k = true := by
  rw [skips, Bool.or_eq_true, List.any_eq_true] at h ⊢
  rcases h with himplied | ⟨q, hq, himplied⟩
  · exact Or.inl himplied
  · exact Or.inr ⟨q, hq, isImplied_reread hc himplied⟩

/-- The walk over the reread query of a state. -/
theorem recoverClause_reread {c : Config} (hc : c.Sound) {s : SearchState} (hvalid : ∀ k ∈ c.criteria s, k.Valid c) :
    c.recoverClause (c.compileQuery s).reread = (c.recovered Clause.reread s).flatMap Criterion.commands := by
  refine recoverClause_compileQuery hc Clause.keepsShape_reread (fun e he => ?_) hvalid
  rw [Clause.reread, recoverClause.eq_def, if_pos (isImplied_filter hc he)]

/-- The walk over the query of a state as it was built. -/
theorem recoverClause_built {c : Config} (hc : c.Sound) {s : SearchState} (hvalid : ∀ k ∈ c.criteria s, k.Valid c) :
    c.recoverClause (c.compileQuery s) = (c.recovered id s).flatMap Criterion.commands := by
  refine recoverClause_compileQuery hc Clause.keepsShape_id (fun e he => ?_) hvalid
  rw [id, recoverClause]
  split <;> rfl

end Config

end FacetedSearch
