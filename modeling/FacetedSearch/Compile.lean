import FacetedSearch.Document
import FacetedSearch.Selection.Command

/-!
# From state to document

`Config.compile` turns a state into the document that is sent to the backend. Terms, ranges, filters and the free
text stand in the query; the groups of OR keys and the missing-value selections of AND keys stand in the filter.
Whatever belongs to a key under a nested prefix goes into one nested clause per prefix.

* `Json.deepMerge`: extra facet requests override what they name and keep the rest.
-/

namespace FacetedSearch

mutual

/-- Merges a value into another one: objects key by key, anything else by replacing it. -/
def Json.deepMerge : Json → Json → Json
  | .obj es, .obj fs => .obj (Json.mergeInto es fs)
  | _, v => v

/-- Merges entries one after the other. -/
def Json.mergeInto (es : List (String × Json)) : List (String × Json) → List (String × Json)
  | [] => es
  | (k, v) :: fs =>
    Json.mergeInto
      (Entries.put es k
        (match Entries.get? es k with
          | some old => Json.deepMerge old v
          | none => v))
      fs

end

/-- Where a clause goes: into the query, into the filter, or into the nested clause of a prefix. -/
inductive Place
  | query
  | filter
  | nested (path : String)
  deriving DecidableEq

/-- A clause and the place where it goes. -/
abbrev Placed := Place × Clause

namespace Placed

/-- The clauses that go to a place, in order. -/
def clausesAt (place : Place) (ps : List Placed) : List Clause :=
  ps.filterMap fun (p, c) => if p = place then some c else none

/-- The nested paths in order of first use. -/
def paths (ps : List Placed) : List String :=
  ps.foldl (fun acc (p, _) =>
    match p with
    | .nested path => if acc.contains path then acc else acc ++ [path]
    | _ => acc) []

end Placed

/-- The clause of a single selection. -/
def Selection.clause (x : Selection) : Clause :=
  match x.value with
  | .term v => .term x.key v
  | .undefined => .missing x.key

namespace Config

/-- The place for a clause about a key: inside its nested prefix, or else a given one. -/
def placeFor (c : Config) (key : String) (otherwise : Place) : Place :=
  match c.nestedPrefix key with
  | some p => .nested p
  | none => otherwise

/-- The place of a selection of an AND key. -/
def placeOfAnd (c : Config) (x : Selection) : Place :=
  c.placeFor x.key (match x.value with
    | .term _ => .query
    | .undefined => .filter)

/-- The group of all OR selections of a key. -/
def orGroup (s : SearchState) (key : String) : Clause :=
  .should (((s.selectionsFor key).filter (·.logic == .or)).map Selection.clause)

/-- Places selections in order; an OR key is placed as a whole where it first occurs. -/
def placeSelections (c : Config) (s : SearchState) (seen : List String) : List Selection → List Placed
  | [] => []
  | x :: xs =>
    match x.logic with
    | .and => (c.placeOfAnd x, x.clause) :: placeSelections c s seen xs
    | .or =>
      if seen.contains x.key then placeSelections c s seen xs
      else (c.placeFor x.key .filter, orGroup s x.key) :: placeSelections c s (x.key :: seen) xs

/-- Places the ranges on facets that exist. -/
def placeRanges (c : Config) (rs : List FacetRange) : List Placed :=
  rs.filterMap fun r => (c.facets[r.facet]?).map fun f => (c.placeFor f.field .query, .range f.field r.low r.high)

/-- Places the filters that every search carries by their names. -/
def placeFilters (c : Config) : List Placed :=
  c.filters.map fun (name, v) => (c.placeFor name .query, .raw v)

/-- The clause of the free text, unless it is blank. -/
def freeTextClause? (c : Config) (s : SearchState) : Option Clause :=
  if isBlankText s.freeText then none
  else some (.text ⟨fuzzifyText c.search.fuzziness s.freeText, s.searchField, some c.search.operator⟩)

/-- All clauses of a state with their places. -/
def placed (c : Config) (s : SearchState) : List Placed :=
  c.placeSelections s [] s.selections ++ c.placeRanges s.ranges ++ c.placeFilters ++
    ((c.freeTextClause? s).map fun t => (Place.query, t)).toList

/-- The nested clauses of all paths in use. -/
def nestedClauses (ps : List Placed) : List Clause :=
  (Placed.paths ps).map fun path => .nested path (.must (Placed.clausesAt (.nested path) ps))

/-- The scoring half of a query. -/
def queryHalf : List Clause → Clause
  | [] => .matchAll
  | [.text q] => .text q
  | cs => .must cs

/-- The query of placed clauses. -/
def queryOf (ps : List Placed) : Clause :=
  let q := queryHalf (Placed.clausesAt .query ps ++ nestedClauses ps)
  match Placed.clausesAt .filter ps with
  | [] => q
  | fs => .filtered q (.all fs)

/-- The query of a state. -/
def compileQuery (c : Config) (s : SearchState) : Clause := queryOf (c.placed s)

end Config

namespace Clause

mutual

/-- Whether a query has a nested clause for a path; conjunctions and raw clauses are not looked into. -/
def hasScope (path : String) : Clause → Bool
  | .nested p _ => p == path
  | .bool m s => hasScopeList path m || hasScopeList path s
  | .filtered q _ => hasScope path q
  | _ => false

/-- Whether one of several queries has a nested clause for a path. -/
def hasScopeList (path : String) : List Clause → Bool
  | [] => false
  | c :: cs => hasScope path c || hasScopeList path cs

end

end Clause

namespace Config

/-- What is asked about the values of a facet. -/
def termsRequest (f : Facet) : Json :=
  .obj ([("field", .str f.field), ("order", .str f.order.name)] ++
    (match f.size with
      | some n => [("size", .ofNat n)]
      | none => []))

/-- The request of a facet; inside a nested object it names the scope of the query or opens one. -/
def facetRequest (c : Config) (query : Clause) (f : Facet) : Json :=
  .obj (("terms", termsRequest f) ::
    (match c.nestedPrefix f.field with
      | some p => [(if query.hasScope p then "scope" else "nested", .str p)]
      | none => []))

/-- The requests of all facets and the extra ones. -/
def facetRequests (c : Config) (query : Clause) : Entries Json :=
  let own : Entries Json := c.facets.foldl (fun acc f => acc.put f.field (c.facetRequest query f)) []
  Json.mergeInto own c.extraFacets

/-- The document of a state. -/
def compile (c : Config) (s : SearchState) : Document :=
  let query := c.compileQuery s
  { query
    offset := if s.page.offset = 0 then none else some s.page.offset
    size := if s.page.size = c.paging.size then none else some s.page.size
    sort := s.sort.map SortKey.toJson
    fields := c.results.fields
    partialFields := c.results.partialFields
    facets := c.facetRequests query }

end Config

end FacetedSearch
