import FacetedSearch.Config.Basic
import FacetedSearch.Toml.Parser

/-!
# Layers of configuration

A layer is what one settings file says. Everything in it may be missing, unknown keys are passed over, and a value of
the wrong kind makes the whole file unusable. A section may be written as an array, whose items then stand for the
keys in order.
-/

namespace FacetedSearch

/-- The backend section of a file. -/
structure BackendLayer where
  url : Option String := none
  method : Option Method := none
  timeout : Option Nat := none

/-- The search section of a file. -/
structure SearchLayer where
  operator : Option Logic := none
  fuzziness : Option Fuzziness := none
  delay : Option Nat := none
  addUndefined : Option Bool := none
  pruneZero : Option Bool := none
  shareFacets : Option Bool := none

/-- The paging section of a file. -/
structure PageLayer where
  offset : Option Nat := none
  size : Option Nat := none

/-- The results section of a file. -/
structure ResultLayer where
  fields : Option (List String) := none
  partialFields : Option (Entries Json) := none
  sortOptions : Option (List SortOption) := none

/-- A facet of a file. -/
structure FacetLayer where
  field : Option String := none
  display : Option String := none
  order : Option ValueOrder := none
  size : Option Nat := none
  minSize : Option Nat := none
  operator : Option Logic := none

/-- What one settings file says. -/
structure Layer where
  root : Option Bool := none
  nested : Option (List String) := none
  backend : BackendLayer := {}
  search : SearchLayer := {}
  paging : PageLayer := {}
  results : ResultLayer := {}
  facets : Option (List FacetLayer) := none
  filters : Entries Json := []
  hierarchies : Entries Toml := []
  extraFacets : Entries Json := []

namespace Toml

/-- The text of a string. -/
def str? : Toml → Option String
  | .str s => some s
  | _ => none

/-- A truth value. -/
def bool? : Toml → Option Bool
  | .bool b => some b
  | _ => none

/-- An unsigned 64-bit integer. -/
def word? : Toml → Option Nat
  | .int n => if 0 ≤ n ∧ n < wordLimit then some n.toNat else none
  | _ => none

/-- The name of a choice: a string, or the only key of a table with nothing below it. -/
def choice? : Toml → Option String
  | .str s => some s
  | .table [(s, .table [])] => some s
  | .table [(s, .arr [])] => some s
  | _ => none

/-- Several strings, or a single one. -/
def strings? : Toml → Option (List String)
  | .str s => some [s]
  | .arr vs => vs.mapM str?
  | _ => none

/-- The items of an array, each read by the same reader. -/
def list? {α : Type} (item : Toml → Option α) : Toml → Option (List α)
  | .arr vs => vs.mapM item
  | _ => none

/-- The entries of a table whose integers all fit into signed 64 bits. -/
def entries? : Toml → Option (Entries Toml)
  | .table es => if (toJsonEntries? es).isSome then some es else none
  | _ => none

/-- The entries of a table as JSON. -/
def jsonEntries? : Toml → Option (Entries Json)
  | .table es => toJsonEntries? es
  | _ => none

/-- A section of a file: gives the value of the key with a name and a place. -/
def section? : Toml → Option (String → Nat → Option Toml)
  | .table es => some fun name _ => Entries.get? es name
  | .arr vs => some fun _ place => vs[place]?
  | _ => none

/-- Reads a value that may be missing. -/
def optional? {α : Type} (read : Toml → Option α) : Option Toml → Option (Option α)
  | none => some none
  | some v => (read v).map some

end Toml

namespace Layer

open Toml

/-- Reads the backend section. -/
def readBackend (v : Toml) : Option BackendLayer := do
  let key ← section? v
  pure {
    url := ← optional? str? (key "url" 0)
    method := ← optional? (fun v => v.choice?.bind Method.ofName?) (key "method" 1)
    timeout := ← optional? Toml.word? (key "timeout_secs" 2) }

/-- The delay of a search section, which has an older name too; only one of the names may be used. -/
def readDelay (key : String → Nat → Option Toml) : Option (Option Nat) :=
  match key "submit_delay_ms" 2, key "freetext_submit_delay" 6 with
  | some _, some _ => none
  | none, v => optional? Toml.word? v
  | v, none => optional? Toml.word? v

/-- Reads the search section. -/
def readSearch (v : Toml) : Option SearchLayer := do
  let key ← section? (match v with
    | .arr vs => .arr (vs.take 6)
    | v => v)
  pure {
    operator := ← optional? (fun v => v.choice?.bind Logic.ofName?) (key "default_operator" 0)
    fuzziness := ← optional? (fun v => v.choice?.bind Fuzziness.ofName?) (key "fuzzify" 1)
    delay := ← readDelay key
    addUndefined := ← optional? bool? (key "add_undefined" 3)
    pruneZero := ← optional? bool? (key "prune_zero_counts" 4)
    shareFacets := ← optional? bool? (key "include_facets_in_share_link" 5) }

/-- Reads the paging section. -/
def readPaging (v : Toml) : Option PageLayer := do
  let key ← section? v
  pure {
    offset := ← optional? Toml.word? (key "from" 0)
    size := ← optional? Toml.word? (key "size" 1) }

/-- Reads a sort option, which has to name its field. -/
def readSortOption (v : Toml) : Option SortOption := do
  let key ← section? v
  pure {
    field := ← (key "field" 0).bind str?
    display := ← optional? str? (key "display" 1) }

/-- Reads the results section. -/
def readResults (v : Toml) : Option ResultLayer := do
  let key ← section? v
  pure {
    fields := ← optional? strings? (key "fields" 0)
    partialFields := ← optional? jsonEntries? (key "partial_fields" 1)
    sortOptions := ← optional? (list? readSortOption) (key "sort_options" 2) }

/-- Reads a facet. -/
def readFacet (v : Toml) : Option FacetLayer := do
  let key ← section? v
  pure {
    field := ← optional? str? (key "field" 0)
    display := ← optional? str? (key "display" 1)
    order := ← optional? (fun v => v.choice?.bind ValueOrder.ofName?) (key "order" 2)
    size := ← optional? Toml.word? (key "size" 3)
    minSize := ← optional? Toml.word? (key "min_size" 4)
    operator := ← optional? (fun v => v.choice?.bind Logic.ofName?) (key "operator" 5) }

/-- Reads the entries of a whole file. -/
def ofEntries (es : Entries Toml) : Option Layer := do
  pure {
    root := ← optional? bool? (es.get? "root")
    nested := ← optional? strings? (es.get? "nested")
    backend := (← optional? readBackend (es.get? "backend")).getD {}
    search := (← optional? readSearch (es.get? "search")).getD {}
    paging := (← optional? readPaging (es.get? "paging")).getD {}
    results := (← optional? readResults (es.get? "results")).getD {}
    facets := ← optional? (list? readFacet) (es.get? "facet")
    filters := (← optional? jsonEntries? (es.get? "predefined_filters")).getD []
    hierarchies := (← optional? Toml.entries? (es.get? "hierarchy")).getD []
    extraFacets := (← optional? jsonEntries? (es.get? "extra_facets")).getD [] }

/-- Reads the text of a settings file. -/
def parse (text : String) : Option Layer := do
  ofEntries (← Toml.parse text)

end Layer

end FacetedSearch
