import FacetedSearch.Json.Record
import FacetedSearch.Selection.Command

/-!
# States and commands as JSON records

States, commands and settings have a plain JSON form, by which they are stored and passed on. Reading refuses values
of the wrong kind and unknown names of choices.
-/

namespace FacetedSearch

open Json (nullable?)

/-- A value that may be missing, as JSON. -/
def Json.ofOption {α : Type} (f : α → Json) : Option α → Json
  | some a => f a
  | none => .null

namespace Page

/-- A page as a record. -/
def toRecord (p : Page) : Json := .obj [("from", .ofNat p.offset), ("size", .ofNat p.size)]

/-- Reads a page from its record. -/
def ofRecord? (v : Json) : Option Page := do
  let get ← v.record? 2
  pure ⟨← (← get "from" 0).word?, ← (← get "size" 1).word?⟩

end Page

/-- Reads a logic from its name. -/
def Logic.ofRecord? (v : Json) : Option Logic := v.choice?.bind Logic.ofName?

/-- Reads an order from its name. -/
def ValueOrder.ofRecord? (v : Json) : Option ValueOrder := v.choice?.bind ValueOrder.ofName?

/-- Reads a fuzziness from its name. -/
def Fuzziness.ofRecord? (v : Json) : Option Fuzziness := v.choice?.bind Fuzziness.ofName?

/-- Reads a choice from its text. -/
def Choice.ofRecord? (v : Json) : Option Choice := v.str?.map Choice.ofText

namespace SortKey

/-- A sort key as a record. -/
def toRecord (k : SortKey) : Json := .obj [("field", .str k.field), ("direction", .str k.direction.name)]

/-- Reads a sort key from its record. -/
def ofRecord? (v : Json) : Option SortKey := do
  let get ← v.record? 2
  pure ⟨← (← get "field" 0).str?, ← (← get "direction" 1).choice?.bind Direction.ofName?⟩

end SortKey

namespace Selection

/-- A selection as a record. -/
def toRecord (x : Selection) : Json :=
  .obj [("key", .str x.key), ("value", .str x.value.text), ("logic", .str x.logic.name)]

/-- Reads a selection from its record. -/
def ofRecord? (v : Json) : Option Selection := do
  let get ← v.record? 3
  pure ⟨← (← get "key" 0).str?, ← Choice.ofRecord? (← get "value" 1), ← Logic.ofRecord? (← get "logic" 2)⟩

end Selection

namespace FacetRange

/-- A range as a record. -/
def toRecord (r : FacetRange) : Json :=
  .obj [("facet", .ofNat r.facet), ("low", .str r.low), ("high", .str r.high)]

/-- Reads a range from its record. -/
def ofRecord? (v : Json) : Option FacetRange := do
  let get ← v.record? 3
  pure ⟨← (← get "facet" 0).word?, ← (← get "low" 1).str?, ← (← get "high" 2).str?⟩

end FacetRange

namespace SearchState

/-- A state as a record. -/
def toRecord (s : SearchState) : Json :=
  .obj [
    ("free_text", .str s.freeText),
    ("search_field", .ofOption .str s.searchField),
    ("sort", .arr (s.sort.map SortKey.toRecord)),
    ("paging", s.page.toRecord),
    ("selections", .arr (s.selections.map Selection.toRecord)),
    ("ranges", .arr (s.ranges.map FacetRange.toRecord))]

/-- Reads a state from its record. -/
def ofRecord? (v : Json) : Option SearchState := do
  let get ← v.record? 6
  pure {
    freeText := ← (← get "free_text" 0).str?
    searchField := ← nullable? Json.str? (get "search_field" 1)
    sort := ← (← get "sort" 2).list? SortKey.ofRecord?
    page := ← Page.ofRecord? (← get "paging" 3)
    selections := ← (← get "selections" 4).list? Selection.ofRecord?
    ranges := ← (← get "ranges" 5).list? FacetRange.ofRecord? }

end SearchState

namespace Command

/-- The name of a command. -/
def name : Command → String
  | .addSelection .. => "add_selection"
  | .removeSelection .. => "remove_selection"
  | .toggleKeyLogic .. => "toggle_key_logic"
  | .setRange .. => "set_range"
  | .clearRange .. => "clear_range"
  | .setFreeText .. => "set_free_text"
  | .setSearchField .. => "set_search_field"
  | .setSort .. => "set_sort"
  | .setPage .. => "set_page"
  | .setPageSize .. => "set_page_size"
  | .nextPage => "next_page"
  | .previousPage => "previous_page"
  | .cycleFacetOrder .. => "cycle_facet_order"
  | .selectNode .. => "select_node"
  | .deselectNode .. => "deselect_node"
  | .clear => "clear"

/-- What a command is about, as entries of its record. -/
def arguments : Command → Entries Json
  | .addSelection key v l => [("key", .str key), ("value", .str v.text), ("logic", .ofOption (.str ·.name) l)]
  | .removeSelection key v => [("key", .str key), ("value", .str v.text)]
  | .toggleKeyLogic key => [("key", .str key)]
  | .setRange facet low high => [("facet", .ofNat facet), ("low", .str low), ("high", .str high)]
  | .clearRange facet => [("facet", .ofNat facet)]
  | .setFreeText text => [("text", .str text)]
  | .setSearchField field => [("field", .ofOption .str field)]
  | .setSort sort => [("sort", .arr (sort.map SortKey.toRecord))]
  | .setPage offset => [("from", .ofNat offset)]
  | .setPageSize size => [("size", .ofNat size)]
  | .nextPage => []
  | .previousPage => []
  | .cycleFacetOrder facet => [("facet", .ofNat facet)]
  | .selectNode facet path => [("facet", .ofNat facet), ("path", .ofStrings path)]
  | .deselectNode facet path => [("facet", .ofNat facet), ("path", .ofStrings path)]
  | .clear => []

/-- A command as a record. -/
def toRecord (c : Command) : Json := .obj (("command", .str c.name) :: c.arguments)

/-- Reads what a command of some name is about. -/
def ofArguments? (name : String) (v : Json) : Option Command := do
  match name with
  | "add_selection" =>
    let get ← v.record? 3
    pure (.addSelection (← (← get "key" 0).str?) (← Choice.ofRecord? (← get "value" 1))
      (← nullable? Logic.ofRecord? (get "logic" 2)))
  | "remove_selection" =>
    let get ← v.record? 2
    pure (.removeSelection (← (← get "key" 0).str?) (← Choice.ofRecord? (← get "value" 1)))
  | "toggle_key_logic" =>
    let get ← v.record? 1
    pure (.toggleKeyLogic (← (← get "key" 0).str?))
  | "set_range" =>
    let get ← v.record? 3
    pure (.setRange (← (← get "facet" 0).word?) (← (← get "low" 1).str?) (← (← get "high" 2).str?))
  | "clear_range" =>
    let get ← v.record? 1
    pure (.clearRange (← (← get "facet" 0).word?))
  | "set_free_text" =>
    let get ← v.record? 1
    pure (.setFreeText (← (← get "text" 0).str?))
  | "set_search_field" =>
    let get ← v.record? 1
    pure (.setSearchField (← nullable? Json.str? (get "field" 0)))
  | "set_sort" =>
    let get ← v.record? 1
    pure (.setSort (← (← get "sort" 0).list? SortKey.ofRecord?))
  | "set_page" =>
    let get ← v.record? 1
    pure (.setPage (← (← get "from" 0).word?))
  | "set_page_size" =>
    let get ← v.record? 1
    pure (.setPageSize (← (← get "size" 0).word?))
  | "next_page" => pure .nextPage
  | "previous_page" => pure .previousPage
  | "cycle_facet_order" =>
    let get ← v.record? 1
    pure (.cycleFacetOrder (← (← get "facet" 0).word?))
  | "select_node" =>
    let get ← v.record? 2
    pure (.selectNode (← (← get "facet" 0).word?) (← (← get "path" 1).list? Json.str?))
  | "deselect_node" =>
    let get ← v.record? 2
    pure (.deselectNode (← (← get "facet" 0).word?) (← (← get "path" 1).list? Json.str?))
  | "clear" => pure .clear
  | _ => none

/-- Reads a command from its record: an object with its name under `command`, or an array that starts with it. -/
def ofRecord? : Json → Option Command
  | .obj es => do
    let name ← (← Entries.get? es "command").str?
    ofArguments? name (.obj es)
  | .arr (.str name :: vs) => ofArguments? name (.arr vs)
  | _ => none

end Command

/-- Reads backend settings from their record, in which everything may be missing. -/
def BackendSettings.ofRecord? (v : Json) : Option BackendSettings := do
  let get ← v.looseRecord? 3
  let d : BackendSettings := {}
  pure {
    url := ← nullable? Json.str? (get "url" 0)
    method := ← Json.default? (fun v => v.choice?.bind Method.ofName?) d.method (get "method" 1)
    timeout := ← Json.default? Json.word? d.timeout (get "timeout_secs" 2) }

end FacetedSearch
