import FacetedSearch.Recover

/-!
# Fragments that are not understood

A raw clause says nothing about a selection, wherever it stands.  The walk passes over it and goes on, so that a query
with a fragment that is not understood gives the commands of the query without it.  The one way in which a fragment
can matter is that a clause around it equals a filter with it, or only without it.

* `Clause.Spot`: a place in a list of a clause, at any depth.
* `Spot.insert`: the clause with another one put in at a place.
* `Spot.enclosing`: the clauses around a place, each one without and with what is put in.
* `recoverClause_insert_raw`: the walk finds the same commands with a raw clause put in.
-/

namespace FacetedSearch

namespace Clause

/-- A place in a group of clauses inside a clause, at any depth: each list is cut in two where the place is, or around
the member in which the place is. -/
inductive Spot : Clause → Type
  | must (before after s : List Clause) : Spot (.bool (before ++ after) s)
  | should (m before after : List Clause) : Spot (.bool m (before ++ after))
  | and (before after : List Clause) : Spot (.and (before ++ after))
  | inMust {q} (before after s : List Clause) : Spot q → Spot (.bool (before ++ q :: after) s)
  | inShould {q} (m before after : List Clause) : Spot q → Spot (.bool m (before ++ q :: after))
  | inAnd {q} (before after : List Clause) : Spot q → Spot (.and (before ++ q :: after))
  | inNested {q} (path : String) : Spot q → Spot (.nested path q)
  | inQuery {q} (f : Clause) : Spot q → Spot (.filtered q f)
  | inFilter {f} (q : Clause) : Spot f → Spot (.filtered q f)

namespace Spot

/-- The clause with another one put in. -/
def insert (r : Clause) : {q : Clause} → Spot q → Clause
  | _, .must before after s => .bool (before ++ r :: after) s
  | _, .should m before after => .bool m (before ++ r :: after)
  | _, .and before after => .and (before ++ r :: after)
  | _, .inMust before after s spot => .bool (before ++ spot.insert r :: after) s
  | _, .inShould m before after spot => .bool m (before ++ spot.insert r :: after)
  | _, .inAnd before after spot => .and (before ++ spot.insert r :: after)
  | _, .inNested path spot => .nested path (spot.insert r)
  | _, .inQuery f spot => .filtered (spot.insert r) f
  | _, .inFilter q spot => .filtered q (spot.insert r)

/-- The clauses around a place, from the outside in, each as it is and with another clause put in at the place. -/
def enclosing (r : Clause) : {q : Clause} → Spot q → List (Clause × Clause)
  | _, .must before after s => [(.bool (before ++ after) s, .bool (before ++ r :: after) s)]
  | _, .should m before after => [(.bool m (before ++ after), .bool m (before ++ r :: after))]
  | _, .and before after => [(.and (before ++ after), .and (before ++ r :: after))]
  | _, @inMust q before after s spot =>
    (.bool (before ++ q :: after) s, .bool (before ++ spot.insert r :: after) s) :: spot.enclosing r
  | _, @inShould q m before after spot =>
    (.bool m (before ++ q :: after), .bool m (before ++ spot.insert r :: after)) :: spot.enclosing r
  | _, @inAnd q before after spot =>
    (.and (before ++ q :: after), .and (before ++ spot.insert r :: after)) :: spot.enclosing r
  | _, @inNested q path spot => (.nested path q, .nested path (spot.insert r)) :: spot.enclosing r
  | _, @inQuery q f spot => (.filtered q f, .filtered (spot.insert r) f) :: spot.enclosing r
  | _, @inFilter f q spot => (.filtered q f, .filtered q (spot.insert r)) :: spot.enclosing r

end Spot

end Clause

namespace Config

open Clause (Spot)

variable {c : Config}

/-! ### The walk over one clause -/

theorem recoverClause_bool {m s : List Clause} (h : c.isImplied (.bool m s) = false) :
    c.recoverClause (.bool m s) = m.flatMap c.recoverClause ++ s.filterMap recoverMember := by
  rw [recoverClause, h, ← recoverList_eq_flatMap]
  rfl

theorem recoverClause_and {qs : List Clause} (h : c.isImplied (.and qs) = false) :
    c.recoverClause (.and qs) = qs.flatMap c.recoverClause := by
  rw [recoverClause, h, ← recoverList_eq_flatMap]
  rfl

theorem recoverClause_nested {path : String} {q : Clause} (h : c.isImplied (.nested path q) = false) :
    c.recoverClause (.nested path q) = c.recoverClause q := by
  rw [recoverClause, h]
  rfl

theorem recoverClause_filtered {q f : Clause} (h : c.isImplied (.filtered q f) = false) :
    c.recoverClause (.filtered q f) = c.recoverClause q ++ c.recoverClause f := by
  rw [recoverClause, h]
  rfl

/-- A raw clause gives no command, whether or not it equals a filter. -/
theorem recoverClause_raw (v : Json) : c.recoverClause (.raw v) = [] := by
  rw [recoverClause]
  split <;> rfl

/-- A member of an OR group that has places of its own is none that can be selected. -/
private theorem recoverMember_insert (r : Clause) {q : Clause} (spot : Spot q) :
    recoverMember (spot.insert r) = none ∧ recoverMember q = none := by
  cases spot <;> exact ⟨rfl, rfl⟩

/-! ### The walk around a place -/

private theorem flatMap_without {f : Clause → List Command} {q : Clause} (h : f q = []) (before after : List Clause) :
    (before ++ q :: after).flatMap f = (before ++ after).flatMap f := by
  rw [List.flatMap_append, List.flatMap_append, List.flatMap_cons, h, List.nil_append]

private theorem flatMap_member {f : Clause → List Command} {q r : Clause} (h : f q = f r)
    (before after : List Clause) : (before ++ q :: after).flatMap f = (before ++ r :: after).flatMap f := by
  rw [List.flatMap_append, List.flatMap_append, List.flatMap_cons, List.flatMap_cons, h]

private theorem filterMap_without {f : Clause → Option Command} {q : Clause} (h : f q = none)
    (before after : List Clause) : (before ++ q :: after).filterMap f = (before ++ after).filterMap f := by
  rw [List.filterMap_append, List.filterMap_append, List.filterMap_cons_none h]

/-- Putting a raw clause in changes nothing for the walk, if no clause around the place equals a filter. -/
theorem recoverClause_insert_raw {q : Clause} (spot : Spot q) (v : Json)
    (h : ∀ e ∈ spot.enclosing (.raw v), c.isImplied e.1 = false ∧ c.isImplied e.2 = false) :
    c.recoverClause (spot.insert (.raw v)) = c.recoverClause q := by
  -- by induction on the way to the place: the clause around it is walked member by member, before and after
  induction spot with
  | must before after s =>
    obtain ⟨hold, hnew⟩ := List.forall_mem_singleton.1 h
    rw [Spot.insert, recoverClause_bool hnew, recoverClause_bool hold, flatMap_without (recoverClause_raw v)]
  | should m before after =>
    obtain ⟨hold, hnew⟩ := List.forall_mem_singleton.1 h
    rw [Spot.insert, recoverClause_bool hnew, recoverClause_bool hold, filterMap_without rfl]
  | and before after =>
    obtain ⟨hold, hnew⟩ := List.forall_mem_singleton.1 h
    rw [Spot.insert, recoverClause_and hnew, recoverClause_and hold, flatMap_without (recoverClause_raw v)]
  | inMust before after s spot ih =>
    obtain ⟨⟨hold, hnew⟩, hinner⟩ := List.forall_mem_cons.1 h
    rw [Spot.insert, recoverClause_bool hnew, recoverClause_bool hold, flatMap_member (ih hinner)]
  | inShould m before after spot =>
    -- the walk does not go into the members of an OR group
    obtain ⟨⟨hold, hnew⟩, -⟩ := List.forall_mem_cons.1 h
    obtain ⟨hmemberNew, hmemberOld⟩ := recoverMember_insert (.raw v) spot
    rw [Spot.insert, recoverClause_bool hnew, recoverClause_bool hold, filterMap_without hmemberNew,
      filterMap_without hmemberOld]
  | inAnd before after spot ih =>
    obtain ⟨⟨hold, hnew⟩, hinner⟩ := List.forall_mem_cons.1 h
    rw [Spot.insert, recoverClause_and hnew, recoverClause_and hold, flatMap_member (ih hinner)]
  | inNested path spot ih =>
    obtain ⟨⟨hold, hnew⟩, hinner⟩ := List.forall_mem_cons.1 h
    rw [Spot.insert, recoverClause_nested hnew, recoverClause_nested hold, ih hinner]
  | inQuery f spot ih =>
    obtain ⟨⟨hold, hnew⟩, hinner⟩ := List.forall_mem_cons.1 h
    rw [Spot.insert, recoverClause_filtered hnew, recoverClause_filtered hold, ih hinner]
  | inFilter q spot ih =>
    obtain ⟨⟨hold, hnew⟩, hinner⟩ := List.forall_mem_cons.1 h
    rw [Spot.insert, recoverClause_filtered hnew, recoverClause_filtered hold, ih hinner]

/-- A document with a fragment that is not understood gives the commands of the document without it, if no clause
around the fragment equals a filter. -/
theorem recover_with_fragment (d : Document) (spot : Spot d.query) (v : Json)
    (h : ∀ e ∈ spot.enclosing (.raw v), c.isImplied e.1 = false ∧ c.isImplied e.2 = false) :
    c.recover { d with query := spot.insert (.raw v) } = c.recover d := by
  rw [recover, recover, recoverClause_insert_raw spot v h]

private def articlesOnly : Config := { filters := [("type", .keyed "term" (.keyed "type" (.str "article")))] }

/-- A query as it may stand in a link: the filter, an OR group, and a term in a nested object. -/
private def linkedQuery : Clause :=
  .filtered (.bool [.term "type" "article"] [.term "size" "S", .missing "size"])
    (.and [.nested "stats" (.bool [.term "stats.year" "2001"] [])])

/-- The place in front of the term in the nested object. -/
private def besideYear : Spot linkedQuery :=
  .inFilter _ (.inAnd [] [] (.inNested "stats" (.must [] [.term "stats.year" "2001"] [])))

private def distance : Json := .keyed "geo_distance" (.keyed "distance" (.str "10km"))

/-- A distance inside a nested object is not understood, and costs none of the three selections. -/
theorem recover_with_distance :
    (∀ e ∈ besideYear.enclosing (.raw distance), articlesOnly.isImplied e.1 = false ∧ articlesOnly.isImplied e.2 = false) ∧
      articlesOnly.recover { query := besideYear.insert (.raw distance) } =
        [.addSelection "size" (.term "S") (some .or), .addSelection "size" .undefined (some .or),
          .addSelection "stats.year" (.term "2001") (some .and)] := by
  have hclear : ∀ e ∈ besideYear.enclosing (.raw distance),
      articlesOnly.isImplied e.1 = false ∧ articlesOnly.isImplied e.2 = false := by decide +kernel
  refine ⟨hclear, ?_⟩
  rw [recover_with_fragment { query := linkedQuery } besideYear distance hclear]
  rfl

end Config

end FacetedSearch
