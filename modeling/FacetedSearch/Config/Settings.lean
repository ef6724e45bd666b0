import FacetedSearch.Config.Basic
import FacetedSearch.Toml.Writer

/-!
# Effective settings as text

The backend, search and paging settings in the form of a settings file.
-/

namespace FacetedSearch

namespace Config

/-- The backend section. -/
def backendText (b : BackendSettings) : String :=
  "[backend]\n" ++
    (match b.url with
      | some u => Toml.assignment "url" (Toml.quote u)
      | none => "") ++
    Toml.assignment "method" (Toml.quote b.method.name) ++
    Toml.assignment "timeout_secs" (toString b.timeout)

/-- The search section. -/
def searchText (s : SearchSettings) : String :=
  "[search]\n" ++
    Toml.assignment "default_operator" (Toml.quote s.operator.name) ++
    Toml.assignment "fuzzify" (Toml.quote s.fuzziness.name) ++
    Toml.assignment "submit_delay_ms" (toString s.delay) ++
    Toml.assignment "add_undefined" (Toml.boolText s.addUndefined) ++
    Toml.assignment "prune_zero_counts" (Toml.boolText s.pruneZero) ++
    Toml.assignment "include_facets_in_share_link" (Toml.boolText s.shareFacets)

/-- The paging section. -/
def pagingText (p : Page) : String :=
  "[paging]\n" ++ Toml.assignment "from" (toString p.offset) ++ Toml.assignment "size" (toString p.size)

/-- The effective settings as a settings file. -/
def settingsText (c : Config) : String :=
  backendText c.backend ++ "\n" ++ searchText c.search ++ "\n" ++ pagingText c.paging

end Config

end FacetedSearch
