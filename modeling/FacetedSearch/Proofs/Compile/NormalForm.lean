import FacetedSearch.Proofs.Clause.Reread
import FacetedSearch.Proofs.Compile.Places

/-!
# The normal form of compiled queries

A compiled query has one of few shapes.  Its scoring half is a conjunction, with one member for each nested path in
use; its filter half, if there is one, holds missing values and groups of alternatives.  Nothing else is nested, and
each key with alternatives has one group, with the values in the order of their selection.

* `Clause.parts`: a clause and all clauses inside it.
* `Clause.Search`: a search for clauses that passes over those that hold a query together; in a half of a query it
  finds what it finds in the clauses that are placed there (`found_queryPart`, `found_filterPart`).
* `groups_chosenCriteria`: the groups of alternatives of a state, one for each key.
* `compile_normalForm`: every compiled query is in normal form.
-/

namespace FacetedSearch

namespace Clause

/-! ### The clauses of a query -/

mutual

/-- A clause and all clauses inside it, from the outside in; raw clauses are not looked into. -/
def parts : Clause → List Clause
  | .bool m s => .bool m s :: (partsList m ++ partsList s)
  | .and cs => .and cs :: partsList cs
  | .nested p q => .nested p q :: parts q
  | .filtered q f => .filtered q f :: (parts q ++ parts f)
  | q => [q]

def partsList : List Clause → List Clause
  | [] => []
  | q :: qs => parts q ++ partsList qs

end

/-- The half of a query that scores. -/
def scored : Clause → Clause
  | .filtered q _ => q
  | q => q

def mustMembers : Clause → List Clause
  | .bool m _ => m
  | _ => []

/-- The path and the inner query of a nested clause. -/
def nested? : Clause → Option (String × Clause)
  | .nested p q => some (p, q)
  | _ => none

/-- The members of a group of alternatives. -/
def group? : Clause → Option (List Clause)
  | .bool [] (v :: vs) => some (v :: vs)
  | _ => none

def halves? : Clause → Option (Clause × Clause)
  | .filtered q f => some (q, f)
  | _ => none

/-- Finds the Bool clauses without any member. -/
def idle? : Clause → Option Unit
  | .bool [] [] => some ()
  | _ => none

/-- A missing value or a group of alternatives. -/
def OnlyFilters (q : Clause) : Prop := (∃ key, q = .missing key) ∨ ∃ vs, q.group? = some vs

/-! ### Searches -/

/-- A search that passes over all clauses that are not made of others, and over conjunctions. -/
structure Search {α : Type} (f : Clause → Option α) : Prop where
  plain : ∀ q : Clause, q.Plain → f q = none
  raw : ∀ v, f (.raw v) = none
  must : ∀ cs, cs ≠ [] → f (.must cs) = none
  and : ∀ cs, f (.and cs) = none

theorem search_nested? : Search nested? where
  plain q h := by cases q <;> first | rfl | cases h
  raw _ := rfl
  must _ _ := rfl
  and _ := rfl

theorem search_group? : Search group? where
  plain q h := by cases q <;> first | rfl | cases h
  raw _ := rfl
  must cs h := by cases cs with
    | nil => exact absurd rfl h
    | cons => rfl
  and _ := rfl

theorem search_halves? : Search halves? where
  plain q h := by cases q <;> first | rfl | cases h
  raw _ := rfl
  must _ _ := rfl
  and _ := rfl

theorem search_idle? : Search idle? where
  plain q h := by cases q <;> first | rfl | cases h
  raw _ := rfl
  must cs h := by cases cs with
    | nil => exact absurd rfl h
    | cons => rfl
  and _ := rfl

/-- What a search finds in a clause, inside it included. -/
def found {α : Type} (f : Clause → Option α) (q : Clause) : List α := q.parts.filterMap f

section

variable {α : Type} {f : Clause → Option α}

private theorem filterMap_partsList (qs : List Clause) : (partsList qs).filterMap f = qs.flatMap (found f) := by
  induction qs with
  | nil => rfl
  | cons q qs ih => rw [partsList, List.filterMap_append, ih, List.flatMap_cons, found]

private theorem found_head (q : Clause) (ps : List Clause) (h : q.parts = q :: ps) :
    q.found f = (f q).toList ++ ps.filterMap f := by
  rw [found, h, List.filterMap_cons]
  cases f q <;> rfl

theorem found_bool (m s : List Clause) :
    (Clause.bool m s).found f = (f (.bool m s)).toList ++ (m.flatMap (found f) ++ s.flatMap (found f)) := by
  rw [found_head _ _ (by rw [parts]), List.filterMap_append, filterMap_partsList, filterMap_partsList]

theorem found_and (cs : List Clause) : (Clause.and cs).found f = (f (.and cs)).toList ++ cs.flatMap (found f) := by
  rw [found_head _ _ (by rw [parts]), filterMap_partsList]

theorem found_nested (p : String) (q : Clause) :
    (Clause.nested p q).found f = (f (.nested p q)).toList ++ q.found f := by
  rw [found_head _ _ (by rw [parts]), found]

theorem found_filtered (q r : Clause) :
    (Clause.filtered q r).found f = (f (.filtered q r)).toList ++ (q.found f ++ r.found f) := by
  rw [found_head _ _ (by rw [parts]), List.filterMap_append, found, found]

theorem found_plain {q : Clause} (h : q.Plain) : q.found f = (f q).toList := by
  have hparts : q.parts = [q] := by
    cases q with
    | matchAll | term | missing | range | text => rw [parts] <;> nofun
    | _ => cases h
  rw [found_head q [] hparts, List.filterMap_nil, List.append_nil]

theorem found_raw (v : Json) : (Clause.raw v).found f = (f (.raw v)).toList := by
  rw [found_head _ [] (by rw [parts] <;> nofun), List.filterMap_nil, List.append_nil]

variable (hf : Search f)
include hf

theorem Search.found_plain {q : Clause} (h : q.Plain) : q.found f = [] := by
  rw [Clause.found_plain h, hf.plain q h]
  rfl

theorem Search.found_must {cs : List Clause} (h : cs ≠ []) : (Clause.must cs).found f = cs.flatMap (found f) := by
  have hhead : f (.bool cs []) = none := hf.must cs h
  rw [Clause.must, found_bool, hhead, List.flatMap_nil, List.append_nil]
  rfl

theorem Search.found_queryHalf (cs : List Clause) : (Config.queryHalf cs).found f = cs.flatMap (found f) := by
  unfold Config.queryHalf
  split
  · exact hf.found_plain trivial
  · rw [List.flatMap_cons, List.flatMap_nil, List.append_nil]
  · rename_i hnil _
    exact hf.found_must hnil

theorem Search.found_all {cs : List Clause} (h : ∀ q ∈ cs, ∀ ds, q ≠ .and ds) :
    (Clause.all cs).found f = cs.flatMap (found f) := by
  rw [all, flatMap_conjuncts h]
  split
  · rw [List.flatMap_cons, List.flatMap_nil, List.append_nil]
  · rw [found_and, hf.and]
    rfl

end

end Clause

/-! ### What is found in a compiled query -/

namespace Config

/-- A clause that is placed is plain or raw, or a group of plain clauses. -/
private theorem form_placed {c : Config} {s : SearchState} {x : Placed} (hx : x ∈ c.placed s) :
    x.2.Plain ∨ (∃ v, x.2 = .raw v) ∨ ∃ v vs, x.2 = .should (v :: vs) ∧ ∀ w ∈ v :: vs, w.Plain := by
  have hselection : ∀ y : Selection, y.clause.Plain := by
    rintro ⟨key, value, l⟩
    cases value <;> trivial
  rcases mem_placed_iff.1 hx with ⟨k, hk, rfl⟩ | ⟨name, v, -, rfl⟩
  · rcases mem_criteria_iff.1 hk with ⟨y, -, -, rfl⟩ | ⟨y, hy, hor, rfl⟩ | ⟨g, -, h, -, rfl⟩ | ⟨t, -, rfl⟩
    · exact Or.inl (hselection y)
    · obtain ⟨v, vs, hvs⟩ := List.exists_cons_of_ne_nil (SearchState.alternatives_ne_nil hy hor)
      refine Or.inr (Or.inr ⟨Selection.clause ⟨y.key, v, .or⟩,
        vs.map fun w => Selection.clause ⟨y.key, w, .or⟩, ?_, fun w hw => ?_⟩)
      · rw [Criterion.placed, Criterion.clause, hvs]
        rfl
      · rw [← List.map_cons (f := fun w => Selection.clause ⟨y.key, w, .or⟩)] at hw
        obtain ⟨u, -, rfl⟩ := List.mem_map.1 hw
        exact hselection _
    · exact Or.inl trivial
    · exact Or.inl trivial
  · exact Or.inr (Or.inl ⟨v, rfl⟩)

section

variable {α : Type} {f : Clause → Option α} (hf : Clause.Search f) (c : Config) (s : SearchState)
include hf

/-- Nothing is found inside a clause that is placed. -/
private theorem found_placed {x : Placed} (hx : x ∈ c.placed s) : x.2.found f = (f x.2).toList := by
  rcases form_placed hx with hplain | ⟨v, hraw⟩ | ⟨v, vs, hgroup, hmembers⟩
  · exact Clause.found_plain hplain
  · rw [hraw, Clause.found_raw]
  · have hinside : (v :: vs).flatMap (Clause.found f) = [] :=
      List.flatMap_eq_nil_iff.2 fun w hw => hf.found_plain (hmembers w hw)
    rw [hgroup, Clause.should, Clause.found_bool, hinside, List.flatMap_nil, List.append_nil, List.append_nil]

private theorem found_clausesAt (place : Place) :
    (Placed.clausesAt place (c.placed s)).flatMap (Clause.found f) =
      (Placed.clausesAt place (c.placed s)).filterMap f := by
  have hone : ∀ q ∈ Placed.clausesAt place (c.placed s), q.found f = (f q).toList :=
    fun q hq => found_placed hf c s (Placed.mem_clausesAt_iff.1 hq)
  generalize Placed.clausesAt place (c.placed s) = qs at hone
  induction qs with
  | nil => rfl
  | cons q qs ih =>
    rw [List.flatMap_cons, hone q (List.mem_cons_self ..), ih fun r hr => hone r (List.mem_cons_of_mem _ hr),
      List.filterMap_cons]
    cases f q <;> rfl

/-- What is found in the part that scores: in its own clauses, and path by path. -/
theorem found_queryPart :
    (c.queryPart s).found f =
      (Placed.clausesAt .query (c.placed s)).filterMap f ++
        (Placed.paths (c.placed s)).flatMap fun path =>
          (f (.nested path (c.nestedPart s path))).toList ++
            (Placed.clausesAt (.nested path) (c.placed s)).filterMap f := by
  have hnested : (nestedClauses (c.placed s)).flatMap (Clause.found f) =
      (Placed.paths (c.placed s)).flatMap fun path =>
        (f (.nested path (c.nestedPart s path))).toList ++
          (Placed.clausesAt (.nested path) (c.placed s)).filterMap f := by
    rw [nestedClauses, List.flatMap_map, List.flatMap_def, List.flatMap_def]
    congr 1
    apply List.map_congr_left
    intro path hpath
    obtain ⟨q, hq⟩ := Placed.mem_paths_iff.1 hpath
    have hused : Placed.clausesAt (.nested path) (c.placed s) ≠ [] :=
      List.ne_nil_of_mem (Placed.mem_clausesAt_iff.2 hq)
    rw [Clause.found_nested, hf.found_must hused, found_clausesAt hf]
    rfl
  rw [queryPart, hf.found_queryHalf, List.flatMap_append, found_clausesAt hf, hnested]

theorem found_filterPart : (c.filterPart s).found f = (Placed.clausesAt .filter (c.placed s)).filterMap f := by
  rw [filterPart, hf.found_all fun q hq => ne_and_of_mem_filter hq, found_clausesAt hf]

/-- In a whole query a search finds what it finds in the two parts, unless it looks for the query itself. -/
theorem found_compileQuery (hroot : ∀ q r, f (.filtered q r) = none) :
    (c.compileQuery s).found f = (c.queryPart s).found f ++ (c.filterPart s).found f := by
  rcases compileQuery_eq c s with ⟨hnone, hquery⟩ | ⟨-, hquery⟩
  · rw [hquery, found_filterPart hf, hnone, List.filterMap_nil, List.append_nil]
  · rw [hquery, Clause.found_filtered, hroot]
    rfl

/-- A search that passes over groups too finds nothing among the clauses that are placed. -/
private theorem filterMap_clausesAt (hgroup : ∀ v vs, f (.should (v :: vs)) = none) (place : Place) :
    (Placed.clausesAt place (c.placed s)).filterMap f = [] := by
  rw [List.filterMap_eq_nil_iff]
  intro q hq
  rcases form_placed (Placed.mem_clausesAt_iff.1 hq) with hplain | ⟨v, rfl⟩ | ⟨v, vs, rfl, -⟩
  · exact hf.plain q hplain
  · exact hf.raw v
  · exact hgroup v vs

/-- A search that passes over groups and nested clauses finds nothing in either part. -/
private theorem found_parts_eq_nil (hgroup : ∀ v vs, f (.should (v :: vs)) = none)
    (hnested : ∀ path q, f (.nested path q) = none) : (c.queryPart s).found f = [] ∧ (c.filterPart s).found f = [] := by
  have hnone := filterMap_clausesAt hf c s hgroup
  constructor
  · rw [found_queryPart hf, hnone, List.nil_append, List.flatMap_eq_nil_iff]
    intro path _
    rw [hnone, hnested]
    rfl
  · rw [found_filterPart hf, hnone]

end

/-! ### Nested clauses -/

theorem nested?_queryPart (c : Config) (s : SearchState) :
    (c.queryPart s).found Clause.nested? =
      (Placed.paths (c.placed s)).map fun path => (path, c.nestedPart s path) := by
  have hnone := filterMap_clausesAt Clause.search_nested? c s fun _ _ => rfl
  rw [found_queryPart Clause.search_nested?, hnone, List.nil_append, List.map_eq_flatMap]
  simp only [hnone, List.append_nil]
  rfl

theorem nested?_compileQuery (c : Config) (s : SearchState) :
    (c.compileQuery s).found Clause.nested? =
      (Placed.paths (c.placed s)).map fun path => (path, c.nestedPart s path) := by
  have hnone := filterMap_clausesAt Clause.search_nested? c s (fun _ _ => rfl) .filter
  rw [found_compileQuery Clause.search_nested? c s fun _ _ => rfl, nested?_queryPart,
    found_filterPart Clause.search_nested?, hnone, List.append_nil]

theorem scored_compileQuery (c : Config) (s : SearchState) : (c.compileQuery s).scored = c.queryPart s := by
  have hhalf : ∀ cs, (queryHalf cs).scored = queryHalf cs := by
    intro cs
    unfold queryHalf
    split <;> rfl
  rcases compileQuery_eq c s with ⟨-, hquery⟩ | ⟨-, hquery⟩
  · rw [hquery, queryPart, hhalf]
  · rw [hquery]
    rfl

/-- The conjunction that scores has all members of its half, unless that is one text. -/
private theorem mustMembers_queryHalf (cs : List Clause) :
    (queryHalf cs).mustMembers = cs ∨ ∃ t, cs = [.text t] ∧ queryHalf cs = .text t := by
  unfold queryHalf
  split
  · exact Or.inl rfl
  · exact Or.inr ⟨_, rfl, rfl⟩
  · exact Or.inl rfl

theorem nested?_mustMembers (c : Config) (s : SearchState) :
    (c.queryPart s).mustMembers.filterMap Clause.nested? =
      (Placed.paths (c.placed s)).map fun path => (path, c.nestedPart s path) := by
  have hhalf : ∀ cs, (queryHalf cs).mustMembers.filterMap Clause.nested? = cs.filterMap Clause.nested? := by
    intro cs
    rcases mustMembers_queryHalf cs with hall | ⟨t, rfl, hone⟩
    · rw [hall]
    · rfl
  have hnone := filterMap_clausesAt Clause.search_nested? c s (fun _ _ => rfl) .query
  rw [queryPart, hhalf, List.filterMap_append, hnone, List.nil_append, nestedClauses, List.filterMap_map,
    ← List.filterMap_eq_map]
  rfl

/-! ### Groups of alternatives -/

end Config

/-- The group of a key. -/
def SearchState.group (s : SearchState) (key : String) : List Clause :=
  (s.alternatives key).map fun v => Selection.clause ⟨key, v, .or⟩

/-- The keys with OR selections, each where it first occurs. -/
def SearchState.groupKeys (s : SearchState) : List String :=
  ((s.selections.filter (·.logic == .or)).map (·.key)).eraseDups

namespace Config

theorem group?_oneOf {s : SearchState} {x : Selection} (hx : x ∈ s.selections) (hor : x.logic = .or) :
    (Criterion.oneOf x.key (s.alternatives x.key)).clause.group? = some (s.group x.key) := by
  obtain ⟨v, vs, hvs⟩ := List.exists_cons_of_ne_nil (SearchState.alternatives_ne_nil hx hor)
  rw [Criterion.clause, SearchState.group, hvs]
  rfl

theorem group?_one (x : Selection) : (Criterion.one x).clause.group? = none := by
  obtain ⟨key, value, l⟩ := x
  cases value <;> rfl

/-- The groups among the criteria of selections: one for each key that was not seen before. -/
theorem groups_chosenCriteria {s : SearchState} {seen : List String} {xs : List Selection}
    (h : ∀ x ∈ xs, x ∈ s.selections) :
    ((chosenCriteria s seen xs).map Criterion.clause).filterMap Clause.group? =
      (((xs.filter (·.logic == .or)).map (·.key)).removeAll seen).eraseDups.map s.group := by
  induction xs generalizing seen with
  | nil => rfl
  | cons x xs ih =>
    have ih := @fun seen => @ih seen fun y hy => h y (List.mem_cons_of_mem _ hy)
    cases hl : x.logic with
    | and =>
      rw [chosenCriteria_and hl, List.map_cons, List.filterMap_cons_none (group?_one x), ih,
        List.filter_cons_of_neg (by simp [hl])]
    | or =>
      rw [List.filter_cons_of_pos (by simp [hl]), List.map_cons]
      by_cases hseen : x.key ∈ seen
      · rw [chosenCriteria_seen hl hseen, ih]
        simp [List.removeAll, hseen]
      · have hgroup := group?_oneOf (h x (List.mem_cons_self ..)) hl
        have hrest : ∀ ks : List String,
            ks.removeAll (x.key :: seen) = (ks.removeAll seen).filter fun key => !key == x.key := by
          intro ks
          simp only [List.removeAll, List.filter_filter]
          apply List.filter_congr
          intro key _
          by_cases hkey : key = x.key <;> simp [hkey]
        have hcons : ∀ ks : List String, (x.key :: ks).removeAll seen = x.key :: ks.removeAll seen := by
          intro ks
          simp [List.removeAll, hseen]
        rw [chosenCriteria_new hl hseen, List.map_cons, List.filterMap_cons_some hgroup, ih, hcons,
          List.eraseDups_cons, List.map_cons, hrest]

theorem groups_placed (c : Config) (s : SearchState) :
    ((c.placed s).map Prod.snd).filterMap Clause.group? = s.groupKeys.map s.group := by
  have hchosen : ((chosenCriteria s [] s.selections).map Criterion.clause).filterMap Clause.group? =
      s.groupKeys.map s.group := by
    rw [groups_chosenCriteria fun x hx => hx, List.removeAll_nil]
    rfl
  have hranges : ((c.rangeCriteria s.ranges).map Criterion.clause).filterMap Clause.group? = [] := by
    simp only [List.filterMap_eq_nil_iff, List.forall_mem_map, mem_rangeCriteria_iff]
    rintro k ⟨r, -, f, -, rfl⟩
    rfl
  have hfilters : (c.placeFilters.map Prod.snd).filterMap Clause.group? = [] := by
    simp only [List.filterMap_eq_nil_iff, List.forall_mem_map, placeFilters]
    exact fun e _ => rfl
  have htext : ((c.textCriteria s).map Criterion.clause).filterMap Clause.group? = [] := by
    simp only [List.filterMap_eq_nil_iff, List.forall_mem_map, mem_textCriteria_iff]
    rintro k ⟨t, -, rfl⟩
    rfl
  have hclauses : ∀ ks : List Criterion, (ks.map (Criterion.placed c)).map Prod.snd = ks.map Criterion.clause := by
    intro ks
    rw [List.map_map]
    rfl
  rw [placed_eq, List.map_append, List.map_append, hclauses, hclauses, List.map_append, List.filterMap_append,
    List.filterMap_append, List.filterMap_append, hchosen, hranges, hfilters, htext, List.append_nil,
    List.append_nil, List.append_nil]

/-- A query has one group for each key with OR selections. -/
theorem groups_compileQuery (c : Config) (s : SearchState) :
    ((c.compileQuery s).found Clause.group?).Perm (s.groupKeys.map s.group) := by
  have hplaces : (c.compileQuery s).found Clause.group? =
      ((c.places s).flatMap fun place => Placed.clausesAt place (c.placed s)).filterMap Clause.group? := by
    rw [found_compileQuery Clause.search_group? c s fun _ _ => rfl, found_queryPart Clause.search_group?,
      found_filterPart Clause.search_group?, places, List.flatMap_append, List.flatMap_cons, List.flatMap_map,
      List.filterMap_append, List.filterMap_append, List.filterMap_flatMap, List.flatMap_cons, List.flatMap_nil,
      List.append_nil]
    rfl
  rw [hplaces, ← groups_placed c s]
  exact (clauses_perm c s).filterMap _

end Config

/-! ### The normal form -/

/-- The shape of the query of a state. -/
structure NormalForm (c : Config) (s : SearchState) (q : Clause) : Prop where
  /-- All nested clauses are members of the conjunction that scores. -/
  nested_direct : q.parts.filterMap Clause.nested? = q.scored.mustMembers.filterMap Clause.nested?
  nested_once : ((q.parts.filterMap Clause.nested?).map Prod.fst).Nodup
  nested_must : ∀ path inner, .nested path inner ∈ q.parts → ∃ m ms, inner = .bool (m :: ms) []
  filtered_root : ∀ a b, .filtered a b ∉ q.parts.tail
  filtered_iff : (∃ a b, q = .filtered a b) ↔
    ∃ x ∈ s.selections, c.nestedPrefix x.key = none ∧ (x.logic = .or ∨ x.logic = .and ∧ x.value = .undefined)
  filter_half : ∀ a b, q = .filtered a b →
    b.OnlyFilters ∨ ∃ fs, b = .and fs ∧ 2 ≤ fs.length ∧ ∀ g ∈ fs, g.OnlyFilters
  /-- The groups of alternatives are those of the keys with OR selections, one for each of them. -/
  groups : (q.parts.filterMap Clause.group?).Perm (s.groupKeys.map s.group)
  not_idle : .bool [] [] ∉ q.parts
  scores : ∀ r, c.Scores s r → r ∈ q.scored.mustMembers ∨ (∃ t, r = .text t) ∧ q.scored = r
  mustMembers : ∀ r ∈ q.scored.mustMembers, c.Scores s r ∨ ∃ path inner, r = .nested path inner

namespace Config

variable (c : Config) (s : SearchState)

private theorem not_filtered_inside (a b : Clause) : .filtered a b ∉ (c.compileQuery s).parts.tail := by
  intro hmem
  obtain ⟨hquery, hfilter⟩ := found_parts_eq_nil Clause.search_halves? c s (fun _ _ => rfl) fun _ _ => rfl
  have hparts : ∀ {q : Clause}, q.found Clause.halves? = [] → .filtered a b ∉ q.parts :=
    fun hq h => absurd (List.filterMap_eq_nil_iff.1 hq _ h) (by simp [Clause.halves?])
  rcases compileQuery_eq c s with ⟨-, hwhole⟩ | ⟨-, hwhole⟩
  · rw [hwhole] at hmem
    exact hparts hquery (List.mem_of_mem_tail hmem)
  · rw [hwhole, Clause.parts, List.tail_cons, List.mem_append] at hmem
    exact hmem.elim (hparts hquery) (hparts hfilter)

private theorem not_idle_inside : .bool [] [] ∉ (c.compileQuery s).parts := by
  intro hmem
  obtain ⟨hquery, hfilter⟩ := found_parts_eq_nil Clause.search_idle? c s (fun _ _ => rfl) fun _ _ => rfl
  have hfound : (c.compileQuery s).found Clause.idle? = [] := by
    rw [found_compileQuery Clause.search_idle? c s fun _ _ => rfl, hquery, hfilter, List.append_nil]
  cases List.filterMap_eq_nil_iff.1 hfound _ hmem

private theorem filtered_compileQuery_iff :
    (∃ a b, c.compileQuery s = .filtered a b) ↔ Placed.clausesAt .filter (c.placed s) ≠ [] := by
  rcases compileQuery_eq c s with ⟨hnone, hwhole⟩ | ⟨hsome, hwhole⟩
  · have hroot : ∀ a b, c.queryPart s ≠ .filtered a b := by
      intro a b
      rw [queryPart]
      unfold queryHalf
      split <;> exact Clause.noConfusion
    constructor
    · rintro ⟨a, b, hq⟩
      exact absurd (hwhole.symm.trans hq) (hroot a b)
    · exact fun h => absurd hnone h
  · exact ⟨fun _ => hsome, fun _ => ⟨_, _, hwhole⟩⟩

private theorem onlyFilters_of_mem {q : Clause} (h : q ∈ Placed.clausesAt .filter (c.placed s)) : q.OnlyFilters := by
  obtain ⟨x, hx, -, ⟨hor, rfl⟩ | ⟨-, -, rfl⟩⟩ := mem_clausesAt_filter_iff.1 h
  · exact Or.inr ⟨_, group?_oneOf hx hor⟩
  · exact Or.inl ⟨x.key, rfl⟩

private theorem filterPart_form (hsome : Placed.clausesAt .filter (c.placed s) ≠ []) :
    (c.filterPart s).OnlyFilters ∨
      ∃ fs, c.filterPart s = .and fs ∧ 2 ≤ fs.length ∧ ∀ g ∈ fs, g.OnlyFilters := by
  have honly := fun q => onlyFilters_of_mem c s (q := q)
  have hflat := Clause.flatMap_conjuncts fun q hq => ne_and_of_mem_filter (c := c) (s := s) (q := q) hq
  rw [filterPart, Clause.all, hflat]
  generalize Placed.clausesAt .filter (c.placed s) = fs at hsome honly
  match fs, hsome with
  | [q], _ => exact Or.inl (honly q (List.mem_cons_self ..))
  | p :: q :: fs, _ => exact Or.inr ⟨_, rfl, by simp, honly⟩

private theorem inner_of_nested {path : String} {inner : Clause} (hmem : .nested path inner ∈ (c.compileQuery s).parts) :
    ∃ m ms, inner = .bool (m :: ms) [] := by
  have hfound : (path, inner) ∈ (c.compileQuery s).found Clause.nested? := List.mem_filterMap.2 ⟨_, hmem, rfl⟩
  rw [nested?_compileQuery] at hfound
  obtain ⟨p, hp, heq⟩ := List.mem_map.1 hfound
  obtain ⟨rfl, rfl⟩ := Prod.mk.inj heq
  obtain ⟨q, hq⟩ := Placed.mem_paths_iff.1 hp
  obtain ⟨m, ms, hms⟩ := List.exists_cons_of_ne_nil (List.ne_nil_of_mem (Placed.mem_clausesAt_iff.2 hq))
  exact ⟨m, ms, by rw [nestedPart, hms, Clause.must]⟩

private theorem filter_ne_nil_iff :
    Placed.clausesAt .filter (c.placed s) ≠ [] ↔
      ∃ x ∈ s.selections, c.nestedPrefix x.key = none ∧ (x.logic = .or ∨ x.logic = .and ∧ x.value = .undefined) := by
  constructor
  · intro hsome
    obtain ⟨q, hq⟩ := List.exists_mem_of_ne_nil _ hsome
    obtain ⟨x, hx, hfree, ⟨hor, -⟩ | ⟨hand, hvalue, -⟩⟩ := mem_clausesAt_filter_iff.1 hq
    · exact ⟨x, hx, hfree, Or.inl hor⟩
    · exact ⟨x, hx, hfree, Or.inr ⟨hand, hvalue⟩⟩
  · rintro ⟨x, hx, hfree, hor | ⟨hand, hvalue⟩⟩
    · exact List.ne_nil_of_mem (mem_clausesAt_filter_iff.2 ⟨x, hx, hfree, Or.inl ⟨hor, rfl⟩⟩)
    · exact List.ne_nil_of_mem (mem_clausesAt_filter_iff.2 ⟨x, hx, hfree, Or.inr ⟨hand, hvalue, rfl⟩⟩)

private theorem member_of_scores {r : Clause} (h : c.Scores s r) :
    r ∈ (c.queryPart s).mustMembers ∨ (∃ t, r = .text t) ∧ c.queryPart s = r := by
  have hmem : r ∈ Placed.clausesAt .query (c.placed s) ++ nestedClauses (c.placed s) :=
    List.mem_append_left _ (mem_clausesAt_query_iff.2 h)
  rw [queryPart]
  rcases mustMembers_queryHalf (Placed.clausesAt .query (c.placed s) ++ nestedClauses (c.placed s)) with
    hall | ⟨t, hone, halone⟩
  · exact Or.inl (by rwa [hall])
  · rw [hone] at hmem
    cases List.mem_singleton.1 hmem
    exact Or.inr ⟨⟨t, rfl⟩, halone⟩

private theorem scores_of_member {r : Clause} (h : r ∈ (c.queryPart s).mustMembers) :
    c.Scores s r ∨ ∃ path inner, r = .nested path inner := by
  rw [queryPart] at h
  rcases mustMembers_queryHalf (Placed.clausesAt .query (c.placed s) ++ nestedClauses (c.placed s)) with
    hall | ⟨t, -, halone⟩
  · rw [hall, List.mem_append] at h
    rcases h with h | h
    · exact Or.inl (mem_clausesAt_query_iff.1 h)
    · obtain ⟨path, -, rfl⟩ := List.mem_map.1 h
      exact Or.inr ⟨_, _, rfl⟩
  · rw [halone] at h
    cases h

/-- Every compiled query is in normal form. -/
theorem compile_normalForm : NormalForm c s (c.compile s).query := by
  have hquery : (c.compile s).query = c.compileQuery s := rfl
  have hnested : (c.compileQuery s).parts.filterMap Clause.nested? = _ := nested?_compileQuery c s
  rw [hquery]
  exact
    { nested_direct := by rw [hnested, scored_compileQuery, nested?_mustMembers]
      nested_once := by
        rw [hnested, List.map_map]
        simpa [Function.comp_def] using Placed.nodup_paths (c.placed s)
      nested_must := fun _ _ => inner_of_nested c s
      filtered_root := not_filtered_inside c s
      filtered_iff := (filtered_compileQuery_iff c s).trans (filter_ne_nil_iff c s)
      filter_half := by
        intro a b hq
        rcases compileQuery_eq c s with ⟨hnone, -⟩ | ⟨hsome, hwhole⟩
        · exact absurd hnone ((filtered_compileQuery_iff c s).1 ⟨a, b, hq⟩)
        · obtain ⟨-, rfl⟩ := Clause.filtered.inj (hwhole.symm.trans hq)
          exact filterPart_form c s hsome
      groups := groups_compileQuery c s
      not_idle := not_idle_inside c s
      scores := fun r hr => scored_compileQuery c s ▸ member_of_scores c s hr
      mustMembers := fun r hr => scores_of_member c s (scored_compileQuery c s ▸ hr) }

end Config

end FacetedSearch
