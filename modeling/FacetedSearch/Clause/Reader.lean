import FacetedSearch.Clause.Basic
import FacetedSearch.Json.Writer

/-!
# Clauses from JSON

`Clause.ofJson` reads a clause and never fails: a value of an unfamiliar shape is kept as a raw clause. Bounds may
be called `from` and `to` or `gte` and `lte`, an arm of a `bool` clause may hold a single clause, a conjunction may
stand under `filters`, and a `filtered` clause without a filter is its query.

* `clauseAt_eq`, `armAt_eq`, `itemsAt_eq`: the readers of entries are look-ups followed by readers of values.
-/

namespace FacetedSearch

namespace Clause

/-- The first value under one of two keys. -/
def eitherKey (v : Json) (key other : String) : Option Json :=
  match v.get? key with
  | some w => some w
  | none => v.get? other

/-- Reads the body of a clause about a term. -/
def readTerm (body : Json) : Option Clause := do
  let (field, v) ← body.single?
  let value ← v.scalarText
  pure (.term field value)

/-- Reads the field of a clause about missing values: one name or several. -/
def readMissing (body : Json) : Option Clause := do
  match ← body.get? "field" with
  | .str name => pure (.missing name)
  | .arr names =>
    let cs ← names.mapM fun n => n.str?.map .missing
    if cs.isEmpty then none else pure (all cs)
  | _ => none

/-- Reads the body of a range clause. -/
def readRange (body : Json) : Option Clause := do
  let (field, bounds) ← body.single?
  let low ← eitherKey bounds "from" "gte"
  let high ← eitherKey bounds "to" "lte"
  pure (.range field (← low.scalarText) (← high.scalarText))

/-- Reads the body of a free-text clause. -/
def readText (body : Json) : Option Clause := do
  let text ← (← body.get? "query").str?
  let field := (body.get? "default_field").bind Json.str?
  let operator := ((body.get? "default_operator").bind Json.str?).bind fun s => (Logic.parse s).toOption
  pure (.text ⟨text, field, operator⟩)

/-- The path of a nested clause. -/
def readPath (body : Json) : Option String := do
  (← body.get? "path").str?

/-- Whether every entry is one of the arms of a `bool` clause. -/
def onlyArms (es : Entries Json) : Bool :=
  es.all fun e => e.1 == "must" || e.1 == "should"

mutual

/-- Reads a clause; a value of an unfamiliar shape becomes a raw clause. -/
def ofJson : Json → Clause
  | .obj [(kind, body)] => (readBody kind body).getD (.raw (.obj [(kind, body)]))
  | v => .raw v

/-- Reads the body of a clause of some kind. -/
def readBody (kind : String) : Json → Option Clause
  | .obj es =>
    match kind with
    | "match_all" => some .matchAll
    | "term" => readTerm (.obj es)
    | "missing" => readMissing (.obj es)
    | "range" => readRange (.obj es)
    | "query_string" => readText (.obj es)
    | "bool" => if onlyArms es then some (.bool (armAt es "must") (armAt es "should")) else none
    | "and" => (itemsAt es "filters").map .and
    | "nested" =>
      match readPath (.obj es), clauseAt es "query" with
      | some path, some q => some (.nested path q)
      | _, _ => none
    | "filtered" =>
      let q := (clauseAt es "query").getD .matchAll
      match clauseAt es "filter" with
      | some f => some (.filtered q f)
      | none => some q
    | _ => none
  | .arr vs =>
    match kind with
    | "match_all" | "filtered" => some .matchAll
    | "and" => some (.and (ofJsonList vs))
    | _ => none
  | _ =>
    match kind with
    | "match_all" | "filtered" => some .matchAll
    | _ => none

/-- Reads every clause of a list. -/
def ofJsonList : List Json → List Clause
  | [] => []
  | v :: vs => ofJson v :: ofJsonList vs

/-- Reads the clause under a key. -/
def clauseAt : List (String × Json) → String → Option Clause
  | [], _ => none
  | (k, v) :: es, key => if key = k then some (ofJson v) else clauseAt es key

/-- Reads the clauses of an arm: none, a single one, or an array. -/
def armAt : List (String × Json) → String → List Clause
  | [], _ => []
  | (k, .arr vs) :: es, key => if key = k then ofJsonList vs else armAt es key
  | (k, v) :: es, key => if key = k then [ofJson v] else armAt es key

/-- Reads the clauses of an array under a key. -/
def itemsAt : List (String × Json) → String → Option (List Clause)
  | [], _ => none
  | (k, .arr vs) :: es, key => if key = k then some (ofJsonList vs) else itemsAt es key
  | (k, _) :: es, key => if key = k then none else itemsAt es key

end

theorem ofJsonList_eq_map (vs : List Json) : ofJsonList vs = vs.map ofJson := by
  induction vs with
  | nil => simp [ofJsonList]
  | cons v vs ih => simp [ofJsonList, ih]

theorem clauseAt_eq (es : Entries Json) (key : String) : clauseAt es key = (es.get? key).map ofJson := by
  induction es with
  | nil => simp [clauseAt, Entries.get?]
  | cons e es ih =>
    obtain ⟨k, v⟩ := e
    by_cases h : key = k <;> simp [clauseAt, Entries.get?_cons, h, ih]

/-- The clauses of an arm: an array holds one clause an item, any other value is a single clause. -/
def readArm : Json → List Clause
  | .arr vs => vs.map ofJson
  | v => [ofJson v]

theorem armAt_eq (es : Entries Json) (key : String) :
    armAt es key = ((es.get? key).map readArm).getD [] := by
  induction es with
  | nil => simp [armAt, Entries.get?]
  | cons e es ih =>
    obtain ⟨k, v⟩ := e
    by_cases h : key = k <;> cases v <;> simp [armAt, Entries.get?_cons, h, readArm, ofJsonList_eq_map, ih]

theorem itemsAt_eq (es : Entries Json) (key : String) :
    itemsAt es key = ((es.get? key).bind Json.items?).map (·.map ofJson) := by
  induction es with
  | nil => simp [itemsAt, Entries.get?]
  | cons e es ih =>
    obtain ⟨k, v⟩ := e
    by_cases h : key = k <;> cases v <;> simp [itemsAt, Entries.get?_cons, h, Json.items?, ofJsonList_eq_map, ih]

end Clause

end FacetedSearch
