import FacetedSearch.Selection.Record
import FacetedSearch.View

/-!
# Pages and views as JSON records

The place of a page and the views of facets in the JSON form in which they are handed out.
-/

namespace FacetedSearch

/-- The place of a page as a record. -/
def Pagination.toRecord (p : Pagination) : Json := .obj [
  ("from", .ofNat p.offset), ("size", .ofNat p.size), ("found", .ofNat p.found), ("start", .ofNat p.first),
  ("end", .ofNat p.last), ("has_previous", .bool p.hasPrevious), ("has_next", .bool p.hasNext)]

/-- A facet value as a record. -/
def FacetValue.toRecord (v : FacetValue) : Json := .obj [
  ("value", .str v.value), ("count", .ofNat v.count), ("visible", .bool v.visible)]

/-- A node of a hierarchy as a record. -/
def TreeRow.toRecord (r : TreeRow) : Json := .obj [
  ("label", .str r.label), ("count", .ofNat r.count), ("parent_path", .ofStrings r.above), ("leaf", .bool r.leaf),
  ("visible", .bool r.visible)]

/-- The entries of a view as a record. -/
def FacetEntries.toRecord : FacetEntries → Json
  | .flat vs => .obj [("kind", .str "flat"), ("entries", .arr (vs.map FacetValue.toRecord))]
  | .tree rs => .obj [("kind", .str "tree"), ("entries", .arr (rs.map TreeRow.toRecord))]

/-- A view as a record. -/
def FacetView.toRecord (v : FacetView) : Json := .obj [
  ("field", .str v.field), ("label", .str v.label), ("order", .str v.order.name), ("logic", .str v.logic.name),
  ("entries", v.entries.toRecord)]

end FacetedSearch
