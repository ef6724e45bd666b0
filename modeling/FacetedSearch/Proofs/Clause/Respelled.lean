import FacetedSearch.Proofs.Clause.Reread

/-!
# Spellings of one clause

A document may spell a clause in several ways: bounds under other names, values that are no strings, an arm that is a
single clause, several missing fields at once, a conjunction under `filters`, a `filtered` clause that filters
nothing.  What is written of a clause is one of its spellings.  Two documents are read as the same clause just when
they are spellings of one document, and the clause that was read is read again from what is written of it.

* `Respelled`: a document, and the same one with some clauses in the spelling in which they are written.
* `ofJson_eq_of_respelled`: both are read as one clause.
* `respelled_toJson`: what is written of the clause that was read is a respelling of the document.
* `reading_settles_spelling`: what is read, written and read again is what was read first.
-/

namespace FacetedSearch

namespace Clause

/-! ### Spellings -/

/-- The clauses under a key: an array of them, a single one, or none. -/
def armItems (es : Entries Json) (key : String) : List Json :=
  match es.get? key with
  | some (.arr vs) => vs
  | some v => [v]
  | none => []

/-- The document of a `bool` clause with these arms. -/
def boolDoc (must should : List Json) : Json :=
  .keyed "bool" (.obj (armEntry "must" must ++ armEntry "should" should))

/-- The document of a clause about a missing value. -/
def missingDoc (field : String) : Json := .keyed "missing" (.keyed "field" (.str field))

/-- The query of a `filtered` clause; without one, everything matches. -/
def Queries (body v : Json) : Prop :=
  body.get? "query" = some v ∨ body.get? "query" = none ∧ v = .keyed "match_all" (.obj [])

/-- The text under which a bound is read. -/
def Bound (es : Entries Json) (key other text : String) : Prop :=
  ∃ v : Json, (es.get? key = some v ∨ es.get? key = none ∧ es.get? other = some v) ∧ v.scalarText = some text

/-- A document, and the same one with some of its clauses in the spelling in which clauses are written. -/
inductive Respelled : Json → Json → Prop
  | refl (v : Json) : Respelled v v
  | trans {u v w : Json} (h : Respelled u v) (h' : Respelled v w) : Respelled u w
  | everything (body : Json) : Respelled (.keyed "match_all" body) (.keyed "match_all" (.obj []))
  | scalar {field text : String} {v : Json} (hv : v.scalarText = some text) :
      Respelled (.keyed "term" (.keyed field v)) (.keyed "term" (.keyed field (.str text)))
  | bounds {field low high : String} {es : Entries Json} (hlow : Bound es "from" "gte" low)
      (hhigh : Bound es "to" "lte" high) :
      Respelled (.keyed "range" (.keyed field (.obj es)))
        (.keyed "range" (.keyed field (.obj [("from", .str low), ("to", .str high)])))
  | oneMissing {field : String} {es : Entries Json}
      (hfield : es.get? "field" = some (.str field) ∨ es.get? "field" = some (.ofStrings [field])) :
      Respelled (.keyed "missing" (.obj es)) (missingDoc field)
  | allMissing {f g : String} {fields : List String} {es : Entries Json}
      (hfields : es.get? "field" = some (.ofStrings (f :: g :: fields))) :
      Respelled (.keyed "missing" (.obj es)) (.keyed "and" (.arr ((f :: g :: fields).map missingDoc)))
  | words {es : Entries Json} {q : TextQuery} (htext : es.get? "query" = some (.str q.text))
      (hfield : q.field = (es.get? "default_field").bind Json.str?)
      (hoperator : q.operator =
        ((es.get? "default_operator").bind Json.str?).bind fun s => (Logic.parse s).toOption) :
      Respelled (.keyed "query_string" (.obj es)) (.keyed "query_string" (.obj q.entries))
  | arms {es : Entries Json} (hes : onlyArms es = true) :
      Respelled (.keyed "bool" (.obj es)) (boolDoc (armItems es "must") (armItems es "should"))
  | filters {es : Entries Json} {vs : List Json} (hvs : es.get? "filters" = some (.arr vs)) :
      Respelled (.keyed "and" (.obj es)) (.keyed "and" (.arr vs))
  | unfiltered {body v : Json} (hfilter : body.get? "filter" = none) (hquery : Queries body v) :
      Respelled (.keyed "filtered" body) v
  | inMust {v w : Json} {before after should : List Json} (h : Respelled v w) :
      Respelled (boolDoc (before ++ v :: after) should) (boolDoc (before ++ w :: after) should)
  | inShould {v w : Json} {must before after : List Json} (h : Respelled v w) :
      Respelled (boolDoc must (before ++ v :: after)) (boolDoc must (before ++ w :: after))
  | inAnd {v w : Json} {before after : List Json} (h : Respelled v w) :
      Respelled (.keyed "and" (.arr (before ++ v :: after))) (.keyed "and" (.arr (before ++ w :: after)))
  | inNested {path : String} {es : Entries Json} {v w : Json} (hpath : es.get? "path" = some (.str path))
      (hquery : es.get? "query" = some v) (h : Respelled v w) :
      Respelled (.keyed "nested" (.obj es))
        (.keyed "nested" (.obj [("_scope", .str path), ("path", .str path), ("query", w)]))
  | inFiltered {body v v' w w' : Json} (hquery : Queries body v) (hfilter : body.get? "filter" = some w)
      (h : Respelled v v') (h' : Respelled w w') :
      Respelled (.keyed "filtered" body) (.keyed "filtered" (.obj [("query", v'), ("filter", w')]))

/-! ### Reading the kinds of clauses -/

private theorem ofJson_of_readBody {kind : String} {body : Json} {q : Clause} (h : readBody kind body = some q) :
    ofJson (.keyed kind body) = q := by
  rw [Json.keyed, ofJson, h, Option.getD_some]

private theorem ofJson_matchAll (body : Json) : ofJson (.keyed "match_all" body) = .matchAll := by
  apply ofJson_of_readBody
  cases body <;> rfl

private theorem ofJson_term {field s : String} {v : Json} (hs : v.scalarText = some s) :
    ofJson (.keyed "term" (.keyed field v)) = .term field s :=
  ofJson_of_readBody (by simp [Json.keyed, readBody, readTerm, Json.single?, hs])

private theorem eitherKey_eq_some_iff {es : Entries Json} {key other : String} {v : Json} :
    eitherKey (.obj es) key other = some v ↔
      es.get? key = some v ∨ es.get? key = none ∧ es.get? other = some v := by
  rw [eitherKey]
  cases hkey : (Json.obj es).get? key <;> simp_all [Json.get?]

private theorem ofJson_range {field low high : String} {es : Entries Json} (hlow : Bound es "from" "gte" low)
    (hhigh : Bound es "to" "lte" high) :
    ofJson (.keyed "range" (.keyed field (.obj es))) = .range field low high := by
  obtain ⟨v, hv, hlow⟩ := hlow
  obtain ⟨w, hw, hhigh⟩ := hhigh
  rw [← eitherKey_eq_some_iff] at hv hw
  exact ofJson_of_readBody (by simp [Json.keyed, readBody, readRange, Json.single?, hv, hw, hlow, hhigh])

private theorem mapM_missing (names : List String) :
    (names.map Json.str).mapM (fun n : Json => n.str?.map Clause.missing) = some (names.map .missing) := by
  induction names with
  | nil => rfl
  | cons name names ih =>
    rw [List.map_cons, List.mapM_cons, ih]
    rfl

private theorem ofJson_missing {field : String} {es : Entries Json} (hfield : es.get? "field" = some (.str field)) :
    ofJson (.keyed "missing" (.obj es)) = .missing field :=
  ofJson_of_readBody (by simp [readBody, readMissing, Json.get?, hfield])

private theorem ofJson_missings {f : String} {fields : List String} {es : Entries Json}
    (hfields : es.get? "field" = some (.ofStrings (f :: fields))) :
    ofJson (.keyed "missing" (.obj es)) = all ((f :: fields).map .missing) := by
  have hread : readMissing (.obj es) = some (all ((f :: fields).map .missing)) := by
    simp only [readMissing, Json.get?, hfields, Json.ofStrings, Option.bind_eq_bind, Option.bind_some, mapM_missing]
    rfl
  exact ofJson_of_readBody (by simp [readBody, hread])

private theorem all_missings (f g : String) (fields : List String) :
    all ((f :: g :: fields).map .missing) = .and ((f :: g :: fields).map .missing) := by
  have hflat : ∀ names : List String, (names.map Clause.missing).flatMap conjuncts = names.map .missing := by
    intro names
    rw [List.flatMap_map, List.map_eq_flatMap]
    rfl
  rw [all, hflat]
  rfl

private theorem ofJson_text {es : Entries Json} {q : TextQuery} (htext : es.get? "query" = some (.str q.text))
    (hfield : q.field = (es.get? "default_field").bind Json.str?)
    (hoperator : q.operator =
      ((es.get? "default_operator").bind Json.str?).bind fun s => (Logic.parse s).toOption) :
    ofJson (.keyed "query_string" (.obj es)) = .text q := by
  obtain ⟨text, field, operator⟩ := q
  exact ofJson_of_readBody (by simp_all [readBody, readText, Json.get?, Json.str?])

private theorem armAt_eq_items (es : Entries Json) (key : String) : armAt es key = (armItems es key).map ofJson := by
  rw [armAt_eq, armItems]
  cases es.get? key with
  | none => rfl
  | some v => cases v <;> rfl

private theorem ofJson_bool {es : Entries Json} (hes : onlyArms es = true) :
    ofJson (.keyed "bool" (.obj es)) = .bool ((armItems es "must").map ofJson) ((armItems es "should").map ofJson) :=
  ofJson_of_readBody (by simp [readBody, hes, armAt_eq_items])

private theorem ofJson_boolDoc (must should : List Json) :
    ofJson (boolDoc must should) = .bool (must.map ofJson) (should.map ofJson) := by
  have hes : onlyArms (armEntry "must" must ++ armEntry "should" should) = true := by
    cases must <;> cases should <;> rfl
  have hmust : armItems (armEntry "must" must ++ armEntry "should" should) "must" = must := by
    cases must <;> cases should <;> rfl
  have hshould : armItems (armEntry "must" must ++ armEntry "should" should) "should" = should := by
    cases must <;> cases should <;> rfl
  rw [boolDoc, ofJson_bool hes, hmust, hshould]

private theorem ofJson_and (vs : List Json) : ofJson (.keyed "and" (.arr vs)) = .and (vs.map ofJson) :=
  ofJson_of_readBody (by simp [readBody, ofJsonList_eq_map])

private theorem ofJson_filters {es : Entries Json} {vs : List Json} (hvs : es.get? "filters" = some (.arr vs)) :
    ofJson (.keyed "and" (.obj es)) = .and (vs.map ofJson) :=
  ofJson_of_readBody (by simp [readBody, itemsAt_eq, hvs, Json.items?])

private theorem ofJson_nested {es : Entries Json} {path : String} {v : Json} (hpath : es.get? "path" = some (.str path))
    (hquery : es.get? "query" = some v) : ofJson (.keyed "nested" (.obj es)) = .nested path (ofJson v) :=
  ofJson_of_readBody (by simp [readBody, readPath, Json.get?, hpath, Json.str?, clauseAt_eq, hquery])

private theorem query_of_queries {es : Entries Json} {v : Json} (h : Queries (.obj es) v) :
    (clauseAt es "query").getD .matchAll = ofJson v := by
  rw [clauseAt_eq]
  rcases h with hquery | ⟨hnone, rfl⟩
  · rw [show es.get? "query" = some v from hquery, Option.map_some, Option.getD_some]
  · rw [show es.get? "query" = none from hnone, Option.map_none, Option.getD_none, ofJson_matchAll]

private theorem ofJson_filtered {body v w : Json} (hquery : Queries body v) (hfilter : body.get? "filter" = some w) :
    ofJson (.keyed "filtered" body) = .filtered (ofJson v) (ofJson w) := by
  cases body with
  | obj es =>
    have hread : clauseAt es "filter" = some (ofJson w) := by
      rw [clauseAt_eq, show Entries.get? es "filter" = some w from hfilter, Option.map_some]
    exact ofJson_of_readBody (by simp [readBody, query_of_queries hquery, hread])
  | _ => cases hfilter

private theorem ofJson_unfiltered {body v : Json} (hquery : Queries body v) (hfilter : body.get? "filter" = none) :
    ofJson (.keyed "filtered" body) = ofJson v := by
  cases body with
  | obj es =>
    have hread : clauseAt es "filter" = none := by
      rw [clauseAt_eq, show Entries.get? es "filter" = none from hfilter, Option.map_none]
    exact ofJson_of_readBody (by simp [readBody, query_of_queries hquery, hread])
  | _ =>
    -- what is no object has no query either
    rcases hquery with hquery | ⟨-, rfl⟩
    · cases hquery
    · rw [ofJson_matchAll]
      exact ofJson_of_readBody rfl

/-! ### Respelled documents are read alike -/

theorem ofJson_eq_of_respelled {v w : Json} (h : Respelled v w) : ofJson v = ofJson w := by
  induction h with
  | refl v => rfl
  | trans _ _ ih ih' => exact ih.trans ih'
  | everything body => rw [ofJson_matchAll, ofJson_matchAll]
  | scalar hv => rw [ofJson_term hv, ofJson_term rfl]
  | bounds hlow hhigh =>
    rw [ofJson_range hlow hhigh, ofJson_range ⟨_, Or.inl rfl, rfl⟩ ⟨_, Or.inl rfl, rfl⟩]
  | oneMissing hfield =>
    have hwritten : ∀ field, ofJson (missingDoc field) = .missing field := fun field => ofJson_toJson (.missing field)
    rw [hwritten]
    rcases hfield with hfield | hfield
    · exact ofJson_missing hfield
    · exact ofJson_missings hfield
  | @allMissing f g fields es hfields =>
    rw [ofJson_missings hfields, all_missings, ofJson_and, List.map_map]
    rfl
  | words htext hfield hoperator =>
    rw [ofJson_text htext hfield hoperator]
    exact (ofJson_toJson (.text _)).symm
  | arms hes => rw [ofJson_bool hes, ofJson_boolDoc]
  | filters hvs => rw [ofJson_filters hvs, ofJson_and]
  | unfiltered hfilter hquery => exact ofJson_unfiltered hquery hfilter
  | inMust _ ih =>
    rw [ofJson_boolDoc, ofJson_boolDoc, List.map_append, List.map_append, List.map_cons, List.map_cons, ih]
  | inShould _ ih =>
    rw [ofJson_boolDoc, ofJson_boolDoc, List.map_append, List.map_append, List.map_cons, List.map_cons, ih]
  | inAnd _ ih => rw [ofJson_and, ofJson_and, List.map_append, List.map_append, List.map_cons, List.map_cons, ih]
  | inNested hpath hquery _ ih => rw [ofJson_nested hpath hquery, ofJson_nested rfl rfl, ih]
  | inFiltered hquery hfilter _ _ ih ih' =>
    rw [ofJson_filtered hquery hfilter, ofJson_filtered (.inl rfl) rfl, ih, ih']

/-! ### What is written respells the document -/

/-- Where the items of a document can be respelled one by one, they can be respelled together. -/
private theorem respelled_map (doc : List Json → Json) {f : Json → Json}
    (hone : ∀ before v w after, Respelled v w → Respelled (doc (before ++ v :: after)) (doc (before ++ w :: after)))
    {vs : List Json} (h : ∀ v ∈ vs, Respelled v (f v)) : Respelled (doc vs) (doc (vs.map f)) := by
  have hbefore : ∀ before, Respelled (doc (before ++ vs)) (doc (before ++ vs.map f)) := by
    induction vs with
    | nil => exact fun before => .refl _
    | cons v vs ih =>
      intro before
      have hrest := ih (fun w hw => h w (List.mem_cons_of_mem _ hw)) (before ++ [f v])
      rw [List.append_assoc, List.append_assoc] at hrest
      exact (hone before v (f v) vs (h v (List.mem_cons_self ..))).trans hrest
  exact hbefore []

private theorem eq_keyed_of_single? {v w : Json} {key : String} (h : v.single? = some (key, w)) :
    v = .keyed key w := by
  unfold Json.single? at h
  split at h
  · cases h
    rfl
  · cases h

private theorem inside_of_mem_armItems {es : Entries Json} {key : String} {v : Json} (hv : v ∈ armItems es key) :
    v.Inside (.obj es) := by
  unfold armItems at hv
  split at hv
  · rename_i hkey
    exact .trans (.item hv) (.of_get? hkey)
  · rename_i hkey
    rw [List.mem_singleton.1 hv]
    exact .of_get? hkey
  · cases hv

section Written

variable {es : Entries Json} {q : Clause}

private theorem respelled_term (h : readTerm (.obj es) = some q) :
    Respelled (.keyed "term" (.obj es)) q.toJson := by
  simp only [readTerm, Option.bind_eq_bind, Option.bind_eq_some_iff] at h
  obtain ⟨⟨field, v⟩, hsingle, text, htext, h⟩ := h
  cases h
  rw [eq_keyed_of_single? hsingle]
  exact .scalar htext

private theorem respelled_range (h : readRange (.obj es) = some q) :
    Respelled (.keyed "range" (.obj es)) q.toJson := by
  simp only [readRange, Option.bind_eq_bind, Option.bind_eq_some_iff] at h
  obtain ⟨⟨field, bounds⟩, hsingle, v, hv, w, hw, low, hlow, high, hhigh, h⟩ := h
  cases h
  rw [eq_keyed_of_single? hsingle]
  cases bounds with
  | obj bs => exact .bounds ⟨v, eitherKey_eq_some_iff.1 hv, hlow⟩ ⟨w, eitherKey_eq_some_iff.1 hw, hhigh⟩
  | _ => cases hv

private theorem names_of_mapM {names : List Json} {cs : List Clause}
    (h : names.mapM (fun n : Json => n.str?.map Clause.missing) = some cs) :
    ∃ fields : List String, names = fields.map .str ∧ cs = fields.map .missing := by
  induction names generalizing cs with
  | nil =>
    cases h
    exact ⟨[], rfl, rfl⟩
  | cons n names ih =>
    simp only [List.mapM_cons, Option.bind_eq_bind, Option.bind_eq_some_iff, Option.map_eq_some_iff] at h
    obtain ⟨c, ⟨field, hfield, rfl⟩, ds, hds, h⟩ := h
    cases h
    obtain ⟨fields, rfl, rfl⟩ := ih hds
    cases n with
    | str s =>
      cases hfield
      exact ⟨field :: fields, rfl, rfl⟩
    | _ => cases hfield

private theorem respelled_missing (h : readMissing (.obj es) = some q) :
    Respelled (.keyed "missing" (.obj es)) q.toJson := by
  simp only [readMissing, Option.bind_eq_bind, Option.bind_eq_some_iff] at h
  obtain ⟨v, hv, h⟩ := h
  split at h
  · cases h
    exact .oneMissing (Or.inl hv)
  · obtain ⟨cs, hcs, h⟩ := Option.bind_eq_some_iff.1 h
    obtain ⟨fields, rfl, rfl⟩ := names_of_mapM hcs
    split at h
    · cases h
    · cases h
      rcases fields with _ | ⟨f, _ | ⟨g, fields⟩⟩
      · contradiction
      · exact .oneMissing (Or.inr hv)
      · rw [all_missings, toJson, toJsonList_eq_map, List.map_map]
        exact .allMissing hv
  · cases h

private theorem respelled_text (h : readText (.obj es) = some q) :
    Respelled (.keyed "query_string" (.obj es)) q.toJson := by
  simp only [readText, Option.bind_eq_bind, Option.bind_eq_some_iff] at h
  obtain ⟨v, hv, text, htext, h⟩ := h
  cases h
  cases v with
  | str s =>
    cases htext
    exact .words hv rfl rfl
  | _ => cases htext

private theorem toJson_bool (vs ws : List Json) :
    (Clause.bool (vs.map ofJson) (ws.map ofJson)).toJson =
      boolDoc (vs.map fun v => (ofJson v).toJson) (ws.map fun w => (ofJson w).toJson) := by
  rw [toJson, toJsonList_eq_map, toJsonList_eq_map, List.map_map, List.map_map]
  rfl

private theorem toJson_and (vs : List Json) :
    (Clause.and (vs.map ofJson)).toJson = .keyed "and" (.arr (vs.map fun v => (ofJson v).toJson)) := by
  rw [toJson, toJsonList_eq_map, List.map_map]
  rfl

private theorem respelled_bool (ih : ∀ w : Json, w.Inside (.obj es) → Respelled w (ofJson w).toJson)
    (hes : onlyArms es = true) :
    Respelled (.keyed "bool" (.obj es)) (Clause.bool (armAt es "must") (armAt es "should")).toJson := by
  have hitems : ∀ key, ∀ v ∈ armItems es key, Respelled v (ofJson v).toJson :=
    fun key v hv => ih v (inside_of_mem_armItems hv)
  rw [armAt_eq_items, armAt_eq_items, toJson_bool]
  have hmust := respelled_map (boolDoc · (armItems es "should")) (fun _ _ _ _ h => .inMust h) (hitems "must")
  have hshould := respelled_map (boolDoc ((armItems es "must").map fun v => (ofJson v).toJson))
    (fun _ _ _ _ h => .inShould h) (hitems "should")
  exact (Respelled.arms hes).trans (hmust.trans hshould)

private theorem respelled_and {vs : List Json} (ih : ∀ w ∈ vs, Respelled w (ofJson w).toJson) :
    Respelled (.keyed "and" (.arr vs)) (Clause.and (vs.map ofJson)).toJson := by
  rw [toJson_and]
  exact respelled_map (fun vs => .keyed "and" (.arr vs)) (fun _ _ _ _ h => .inAnd h) ih

private theorem respelled_filters (ih : ∀ w : Json, w.Inside (.obj es) → Respelled w (ofJson w).toJson)
    {cs : List Clause} (h : itemsAt es "filters" = some cs) :
    Respelled (.keyed "and" (.obj es)) (Clause.and cs).toJson := by
  rw [itemsAt_eq] at h
  obtain ⟨vs, hvs, rfl⟩ := Option.map_eq_some_iff.1 h
  obtain ⟨v, hv, hitems⟩ := Option.bind_eq_some_iff.1 hvs
  cases v with
  | arr ws =>
    cases hitems
    exact (Respelled.filters hv).trans (respelled_and fun w hw => ih w (.trans (.item hw) (.of_get? hv)))
  | _ => cases hitems

private theorem respelled_nested (ih : ∀ w : Json, w.Inside (.obj es) → Respelled w (ofJson w).toJson)
    {path : String} (hpath : readPath (.obj es) = some path) (hquery : clauseAt es "query" = some q) :
    Respelled (.keyed "nested" (.obj es)) (Clause.nested path q).toJson := by
  rw [clauseAt_eq] at hquery
  obtain ⟨w, hw, rfl⟩ := Option.map_eq_some_iff.1 hquery
  obtain ⟨v, hv, hpath⟩ := Option.bind_eq_some_iff.1 hpath
  cases v with
  | str s =>
    cases hpath
    exact .inNested hv hw (ih w (.of_get? hw))
  | _ => cases hpath

/-- The query of a `filtered` clause, respelled. -/
private theorem exists_query (ih : ∀ w : Json, w.Inside (.obj es) → Respelled w (ofJson w).toJson) :
    ∃ v, Queries (.obj es) v ∧ Respelled v ((clauseAt es "query").getD .matchAll).toJson := by
  rw [clauseAt_eq]
  cases hquery : es.get? "query" with
  | none => exact ⟨_, Or.inr ⟨hquery, rfl⟩, .refl _⟩
  | some v => exact ⟨v, Or.inl hquery, ih v (.of_get? hquery)⟩

private theorem respelled_filtered (ih : ∀ w : Json, w.Inside (.obj es) → Respelled w (ofJson w).toJson)
    (h : (match clauseAt es "filter" with
      | some f => some (.filtered ((clauseAt es "query").getD .matchAll) f)
      | none => some ((clauseAt es "query").getD .matchAll)) = some q) :
    Respelled (.keyed "filtered" (.obj es)) q.toJson := by
  obtain ⟨v, hquery, hv⟩ := exists_query ih
  cases hfilter : es.get? "filter" with
  | none =>
    rw [show clauseAt es "filter" = none by rw [clauseAt_eq, hfilter, Option.map_none]] at h
    cases h
    have hnone : (Json.obj es).get? "filter" = none := hfilter
    exact (Respelled.unfiltered hnone hquery).trans hv
  | some f =>
    rw [show clauseAt es "filter" = some (ofJson f) by rw [clauseAt_eq, hfilter, Option.map_some]] at h
    cases h
    exact .inFiltered hquery hfilter hv (ih f (.of_get? hfilter))

end Written

private theorem respelled_of_readBody {kind : String} {body : Json}
    (ih : ∀ w : Json, w.Inside body → Respelled w (ofJson w).toJson) {q : Clause} (h : readBody kind body = some q) :
    Respelled (.keyed kind body) q.toJson := by
  rw [readBody.eq_def] at h
  split at h
  · -- an object: the kinds one by one
    split at h
    · cases h
      exact .everything _
    · exact respelled_term h
    · exact respelled_missing h
    · exact respelled_range h
    · exact respelled_text h
    · split at h
      · rename_i hes
        cases h
        exact respelled_bool ih hes
      · cases h
    · obtain ⟨cs, hcs, rfl⟩ := Option.map_eq_some_iff.1 h
      exact respelled_filters ih hcs
    · split at h
      · rename_i hpath hquery
        cases h
        exact respelled_nested ih hpath hquery
      · cases h
    · exact respelled_filtered ih h
    · cases h
  · -- an array: a conjunction, or a body that is passed over
    split at h
    · cases h
      exact .everything _
    · cases h
      exact .unfiltered rfl (Or.inr ⟨rfl, rfl⟩)
    · cases h
      rw [ofJsonList_eq_map]
      exact respelled_and fun w hw => ih w (.item hw)
    · cases h
  · rename_i hobj _
    have hnone : ∀ key, body.get? key = none := by
      intro key
      cases body with
      | obj es => exact absurd rfl (hobj es)
      | _ => rfl
    split at h
    · cases h
      exact .everything _
    · cases h
      exact .unfiltered (hnone _) (Or.inr ⟨hnone _, rfl⟩)
    · cases h

private theorem kept_or_read (v : Json) :
    ofJson v = .raw v ∨ ∃ kind body, v = .keyed kind body ∧ readBody kind body = some (ofJson v) := by
  rw [ofJson.eq_def]
  split
  · rename_i kind body
    cases h : readBody kind body with
    | none => exact Or.inl rfl
    | some q => exact Or.inr ⟨kind, body, rfl, h⟩
  · exact Or.inl rfl

/-- What is written of a clause is the document that it was read from, respelled. -/
theorem respelled_toJson (v : Json) : Respelled v (ofJson v).toJson := by
  rcases kept_or_read v with hkept | ⟨kind, body, hv, hread⟩
  · rw [hkept, toJson]
    exact .refl v
  · have hrespelled := respelled_of_readBody (fun w hw => respelled_toJson w) hread
    rwa [← hv] at hrespelled
termination_by v
decreasing_by
  rw [hv]
  exact (hw.trans (.entry (List.mem_singleton.2 rfl))).sizeOf_lt

/-- A clause that is written and read again is the clause, with its raw parts read.  So one reading settles how a
document is spelled: the clause that was read comes back from what is written of it, and two documents are read as one
clause just when they are spellings of one document. -/
theorem reading_settles_spelling :
    (∀ q : Clause, ofJson q.toJson = q.reread) ∧
      (∀ v : Json, ofJson (ofJson v).toJson = ofJson v) ∧
      ∀ v w : Json, ofJson v = ofJson w ↔ ∃ u, Respelled v u ∧ Respelled w u := by
  refine ⟨ofJson_toJson, fun v => ?_, fun v w => ⟨fun h => ?_, ?_⟩⟩
  · rw [ofJson_toJson, reread_ofJson]
  · exact ⟨(ofJson v).toJson, respelled_toJson v, h ▸ respelled_toJson w⟩
  · rintro ⟨u, hv, hw⟩
    rw [ofJson_eq_of_respelled hv, ofJson_eq_of_respelled hw]

example : ofJson (.keyed "bool" (.keyed "must" (.keyed "and" (.keyed "filters"
    (.arr [.keyed "term" (.keyed "open" (.bool true)), .keyed "missing" (.keyed "field" (.ofStrings ["a", "b"]))]))))) =
      .must [.and [.term "open" "true", .and [.missing "a", .missing "b"]]] := rfl

end Clause

end FacetedSearch
