import FacetedSearch.Clause.Reader
import FacetedSearch.Clause.Writer
import FacetedSearch.Json.Reader
import FacetedSearch.Text.Word64

/-!
# Search documents

A document is all that is sent to the backend: the query, the page, the sort keys, the projection of records and
the facet requests. Reading is lenient: a missing query matches everything, and a page that cannot be read is
dropped.
-/

namespace FacetedSearch

/-- A search request. -/
structure Document where
  query : Clause
  offset : Option Nat := none
  size : Option Nat := none
  sort : List Json := []
  fields : Option (List String) := none
  partialFields : Option Json := none
  facets : Entries Json := []

/-- Why a text is not a document. -/
inductive SourceFault
  | invalidJson
  | notAnObject (found : String)
  deriving DecidableEq

/-- The fault in words. -/
def SourceFault.message : SourceFault → String
  | .invalidJson => "source is not valid JSON"
  | .notAnObject found => "source must be a JSON object, found " ++ found

namespace Document

/-- The entry of an optional number. -/
def numberEntry (key : String) : Option Nat → Entries Json
  | some n => [(key, .ofNat n)]
  | none => []

/-- The entry of the sort keys, left out when there are none. -/
def sortEntry : List Json → Entries Json
  | [] => []
  | vs => [("sort", .arr vs)]

/-- The entry of the stored fields to return. -/
def fieldsEntry : Option (List String) → Entries Json
  | some fs => [("fields", .ofStrings fs)]
  | none => []

/-- The entry of the partial projection. -/
def partialEntry : Option Json → Entries Json
  | some v => [("partial_fields", v)]
  | none => []

/-- All entries but the facet requests. -/
def baseEntries (d : Document) : Entries Json :=
  ("query", d.query.toJson) :: numberEntry "from" d.offset ++ numberEntry "size" d.size ++ sortEntry d.sort ++
    fieldsEntry d.fields ++ partialEntry d.partialFields

/-- The document as the backend reads it. -/
def toJson (d : Document) : Json :=
  .obj (d.baseEntries ++ [("facets", .obj d.facets)])

/-- The document as it travels in a share link, with or without the facet requests. -/
def toShared (d : Document) (withFacets : Bool) : Json :=
  if withFacets then d.toJson else .obj d.baseEntries

/-- Reads a number that may have been written as a string. -/
def readNumber : Json → Option Nat
  | .str s => word? (trimmed s)
  | v => v.nat?

/-- Reads the sort keys: several, a single one, or none. -/
def readSort : Option Json → List Json
  | some (.arr vs) => vs
  | some .null | none => []
  | some v => [v]

/-- Reads a document from the entries of an object. -/
def ofEntries (es : Entries Json) : Document where
  query := ((es.get? "query").map Clause.ofJson).getD .matchAll
  offset := (es.get? "from").bind readNumber
  size := (es.get? "size").bind readNumber
  sort := readSort (es.get? "sort")
  fields := ((es.get? "fields").bind Json.items?).map (·.filterMap Json.str?)
  partialFields := es.get? "partial_fields"
  facets := ((es.get? "facets").bind Json.entries?).getD []

/-- Reads a document from a JSON value, which has to be an object. -/
def ofJson : Json → Except SourceFault Document
  | .obj es => .ok (ofEntries es)
  | v => .error (.notAnObject v.kind)

/-- Reads a document from text. -/
def parse (text : String) : Except SourceFault Document :=
  match Json.parse text with
  | some v => ofJson v
  | none => .error .invalidJson

/-- Equal documents; an object's entries may stand in any order. -/
def same (d e : Document) : Bool :=
  d.query.same e.query && d.offset == e.offset && d.size == e.size && Json.sameItems d.sort e.sort &&
    d.fields == e.fields &&
    (match d.partialFields, e.partialFields with
      | some v, some w => v.same w
      | none, none => true
      | _, _ => false) &&
    Json.same (.obj d.facets) (.obj e.facets)

end Document

end FacetedSearch
