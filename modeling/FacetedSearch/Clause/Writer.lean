import FacetedSearch.Clause.Basic

/-!
# Clauses as JSON

`Clause.toJson` writes a clause in the shape that the backend reads: an object with the kind of the clause as its
only key.
-/

namespace FacetedSearch

/-- The body of a free-text clause. -/
def TextQuery.entries (q : TextQuery) : Entries Json :=
  ("query", .str q.text) ::
    (match q.field with
      | some f => [("default_field", .str f)]
      | none => []) ++
    (match q.operator with
      | some l => [("default_operator", .str l.name)]
      | none => [])

namespace Clause

/-- An entry that is left out when it would hold an empty array. -/
def armEntry (key : String) : List Json → Entries Json
  | [] => []
  | vs => [(key, .arr vs)]

mutual

/-- The clause as the backend reads it. -/
def toJson : Clause → Json
  | .matchAll => .keyed "match_all" (.obj [])
  | .term f v => .keyed "term" (.keyed f (.str v))
  | .missing f => .keyed "missing" (.keyed "field" (.str f))
  | .range f low high => .keyed "range" (.keyed f (.obj [("from", .str low), ("to", .str high)]))
  | .text q => .keyed "query_string" (.obj q.entries)
  | .bool m s => .keyed "bool" (.obj (armEntry "must" (toJsonList m) ++ armEntry "should" (toJsonList s)))
  | .and cs => .keyed "and" (.arr (toJsonList cs))
  | .nested p q => .keyed "nested" (.obj [("_scope", .str p), ("path", .str p), ("query", toJson q)])
  | .filtered q f => .keyed "filtered" (.obj [("query", toJson q), ("filter", toJson f)])
  | .raw v => v

/-- Every clause as the backend reads it. -/
def toJsonList : List Clause → List Json
  | [] => []
  | c :: cs => toJson c :: toJsonList cs

end

theorem toJsonList_eq_map (cs : List Clause) : toJsonList cs = cs.map toJson := by
  induction cs with
  | nil => simp [toJsonList]
  | cons c cs ih => simp [toJsonList, ih]

end Clause

end FacetedSearch
