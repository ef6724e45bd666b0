import FacetedSearch.Config.Basic
import FacetedSearch.Text.Blank

/-!
# Warnings

What looks wrong in a configuration that can still be used, in the order in which it is reported.
-/

namespace FacetedSearch

/-- Something in a configuration that looks wrong. -/
inductive ConfigWarning
  | noFacets
  | noBackend
  | unusedPrefix (p : String)
  | emptySortField (index : Nat)
  | noDisplay (field : String)
  | twoProjections
  deriving DecidableEq

/-- The warning in words. -/
def ConfigWarning.message : ConfigWarning → String
  | .noFacets => "no facets are defined in configuration"
  | .noBackend => "no backend url is configured"
  | .unusedPrefix p => "nested prefix '" ++ p ++ "' is not used by any facet or filter"
  | .emptySortField index => "sort option #" ++ toString index ++ " has an empty field"
  | .noDisplay field => "facet '" ++ field ++ "' has no display label"
  | .twoProjections => "both fields and partial_fields are set; results are read from fields"

namespace Config

/-- The keys whose nested prefix counts as used. -/
def prefixedKeys (c : Config) : List String :=
  c.facets.map (·.field) ++ c.filters.names

/-- Whether a facet or a filter stands under a prefix. -/
def usesPrefix (c : Config) (p : String) : Bool :=
  c.prefixedKeys.any fun key => c.nestedPrefix key == some p

/-- The places of the sort options without a field. -/
def emptySortFields (c : Config) : List Nat :=
  (c.results.sortOptions.zipIdx.filter fun (o, _) => isBlankText o.field).map (·.2)

/-- All warnings about a configuration. -/
def warnings (c : Config) : List ConfigWarning :=
  (if c.facets.isEmpty then [.noFacets] else []) ++
    (if isBlankText (c.backend.url.getD "") then [.noBackend] else []) ++
    (c.nested.filter (!c.usesPrefix ·)).map .unusedPrefix ++
    c.emptySortFields.map .emptySortField ++
    (c.facets.filter (·.display.isNone)).map (fun f => .noDisplay f.field) ++
    (if c.results.fields.isSome && c.results.partialFields.isSome then [.twoProjections] else [])

end Config

end FacetedSearch
