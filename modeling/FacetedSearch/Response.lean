import FacetedSearch.Compile
import FacetedSearch.Json.Record
import FacetedSearch.Json.Writer

/-!
# Responses and results

The backend answers with a total, the records of a page and counts per facet. `Config.reduce` turns that into what is
shown: records in the configured projection, the place of the page, and counts by facet name. Offsets, totals and
counts are unsigned 64-bit integers. The end of a page stops at the largest of them; other sums are taken to stay below
`wordLimit`.
-/

namespace FacetedSearch

/-- A record as the backend returns it. -/
structure Hit where
  stored : Option Json := none
  fields : Option (Entries Json) := none

/-- An answer of the backend. -/
structure Response where
  total : Nat := 0
  hits : List Hit := []
  facets : Entries Json := []

/-- The counts of one facet: values in the order of the backend, and the records without a value. -/
structure FacetCounts where
  terms : List (String × Nat) := []
  missing : Nat := 0
  deriving DecidableEq

/-- The count of a value. -/
def FacetCounts.count? (c : FacetCounts) (value : String) : Option Nat :=
  (c.terms.find? (·.1 == value)).map (·.2)

/-- The place of a page among all records found. -/
structure Pagination where
  offset : Nat
  size : Nat
  found : Nat
  first : Nat
  last : Nat
  hasPrevious : Bool
  hasNext : Bool
  deriving DecidableEq

/-- The offset behind a page, which stops at the largest offset. -/
def Page.stop (p : Page) : Nat := min (p.offset + p.size) (wordLimit - 1)

namespace Pagination

/-- The place of a page; an empty page has no next one. The place of the first record is taken to be a 64-bit
number. -/
def ofPage (p : Page) (found : Nat) : Pagination where
  offset := p.offset
  size := p.size
  found
  first := p.offset + 1
  last := min p.stop found
  hasPrevious := 0 < p.offset
  hasNext := 0 < p.size && p.stop < found

/-- The offset of the previous page. -/
def previousOffset? (p : Pagination) : Option Nat :=
  if p.hasPrevious then some (p.offset - p.size) else none

/-- The offset of the next page. It is below a total of 64 bits, as there is no next page otherwise. -/
def nextOffset? (p : Pagination) : Option Nat :=
  if p.hasNext then some (p.offset + p.size) else none

end Pagination

/-- What is shown of a response. -/
structure Results where
  records : List Json
  found : Nat
  pagination : Pagination
  facets : Entries FacetCounts

namespace Response

/-- Reads a total: a number, or a number under `value`. -/
def readTotal : Json → Option Nat
  | .obj es => do
    let v ← Json.unrepeated? ["value"] (.obj es)
    (← v.get? "value").word?
  | v => v.word?

/-- The entries of an object. -/
def readEntries (v : Json) : Option (Entries Json) := v.normal.entries?

/-- Reads a record. -/
def readHit (v : Json) : Option Hit := do
  let get ← (← v.unrepeated? ["_source", "fields"]).looseRecord? 2
  pure {
    stored := ← Json.nullable? (fun v => some v.normal) (get "_source" 0)
    fields := ← Json.nullable? readEntries (get "fields" 1) }

/-- Reads the section of records. -/
def readHits (v : Json) : Option (Nat × List Hit) := do
  let get ← (← v.unrepeated? ["total", "hits"]).looseRecord? 2
  let total ← Json.default? readTotal 0 (get "total" 0)
  let hits ← Json.default? (Json.list? readHit) [] (get "hits" 1)
  pure (total, hits)

/-- Reads a response, which may not repeat the names of its sections. -/
def ofJson? (v : Json) : Option Response := do
  let get ← (← v.unrepeated? ["hits", "facets"]).looseRecord? 2
  let (total, hits) ← Json.default? readHits (0, []) (get "hits" 0)
  let facets ← Json.default? readEntries [] (get "facets" 1)
  pure { total, hits, facets }

/-- Reads a response from text. -/
def parse? (text : String) : Option Response := do
  ofJson? (← Json.parseLiteral text)

end Response

namespace FacetCounts

/-- Reads a value and its count; a value that cannot be selected is passed over. -/
def readTerm (v : Json) : Option (Option (String × Nat)) := do
  let get ← v.record? 2
  let term ← get "term" 0
  let n ← (← get "count" 1).word?
  pure (term.scalarText.map (·, n))

/-- Reads the counts of a facet; answers of another kind than terms have none. -/
def ofJson? (v : Json) : Option FacetCounts := do
  let terms ← v.get? "terms"
  let terms ← terms.list? readTerm
  let missing ← Json.default? Json.word? 0 (v.get? "missing")
  pure ⟨terms.filterMap id, missing⟩

end FacetCounts

namespace Config

/-- The part of a record that is shown. -/
def project (c : Config) (h : Hit) : Json :=
  if c.results.fields.isSome then (h.fields.map .obj).getD .null
  else
    match c.results.partialFields with
    | some (.obj []) => .null
    | some (.obj ((name, _) :: _)) => (h.fields.bind (·.get? name)).getD .null
    | _ => h.stored.getD .null

/-- The counts of all facets that have any, by name. -/
def readCounts (facets : Entries Json) : Entries FacetCounts :=
  (facets.filterMap fun (name, v) => (FacetCounts.ofJson? v).map (name, ·)).mergeSort (·.1 ≤ ·.1)

/-- What is shown of a response for a page. -/
def reduce (c : Config) (r : Response) (p : Page) : Results where
  records := r.hits.map c.project
  found := r.total
  pagination := .ofPage p r.total
  facets := readCounts r.facets

end Config

end FacetedSearch
