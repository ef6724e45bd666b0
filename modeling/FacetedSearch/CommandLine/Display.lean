import FacetedSearch.Session
import FacetedSearch.Text.Table

/-!
# Results and selections for reading

Records, facets and selections as lines of text. Records are shown in a table whose columns are the configured fields,
or else the keys of the first record that has any.
-/

namespace FacetedSearch

/-- The text of a value in a table: nothing for null, and the items of a list of plain values between commas. -/
def cellText (v : Json) : String :=
  match v.scalarText, v with
  | some s, _ => s
  | none, .null => ""
  | none, .arr vs => ((vs.mapM Json.scalarText).map (", ".intercalate ·)).getD (Json.arr vs).compact
  | none, v => v.compact

/-- The value of a field of a record, by its whole name or else along the parts of the name. -/
def fieldValue (record : Json) (field : String) : Option Json :=
  record.get? field <|>
    (cutAt '.' field.toList).foldlM (fun v part => v.get? (String.ofList part)) record

/-- The columns of a table of records. -/
def recordColumns (c : Config) (records : List Json) : List String :=
  match c.results.fields with
  | some fields => fields
  | none => ((records.findSome? Json.entries?).map Entries.names).getD []

/-- The lines about the records. -/
def recordLines (c : Config) (records : List Json) : List String :=
  if records.isEmpty then ["No results found."]
  else
    match recordColumns c records with
    | [] => tableLines ["Record"] (records.map fun r => [r.compact])
    | columns => tableLines columns (records.map fun r =>
        columns.map fun column => ((fieldValue r column).map cellText).getD "")

/-- The line about the page. -/
def pageLines (p : Pagination) : List String :=
  if p.found = 0 then []
  else
    let next := match p.nextOffset? with
      | some n => " (next page: --from " ++ toString n ++ ")"
      | none => ""
    ["Showing " ++ toString p.first ++ "-" ++ toString p.last ++ " of " ++ toString p.found ++ next]

/-- The rows of a view, and how many values are left out. -/
def viewRows (c : Config) (expanded : Bool) (v : FacetView) : List (List String) × Nat :=
  match v.entries with
  | .flat vs =>
    let (shown, more) := shownValues vs ((c.facet? v.field).bind (·.minSize)) expanded
    (shown.map fun x => [x.value, toString x.count], more)
  | .tree rs =>
    ((rs.filter (·.visible)).map fun r => [Json.indent r.above.length ++ r.label, toString r.count], 0)

/-- The lines about a view. -/
def viewLines (c : Config) (expanded : Bool) (v : FacetView) : List String :=
  let (rows, more) := viewRows c expanded v
  let title := v.label ++ " (" ++ v.logic.name ++ ", " ++ v.order.name ++ ")"
  let rest := if rows.isEmpty then ["  (no values)"]
    else
      tableLines ["Value", "Count"] rows ++
        if more = 0 then [] else ["  " ++ toString more ++ " more (use --all-values)"]
  "" :: title :: rest

/-- The line about the free text. -/
def textLines (s : SearchState) : List String :=
  if s.freeText.isEmpty then []
  else ["Query: " ++ s.freeText ++ " (" ++ s.searchField.getD "all fields" ++ ")"]

/-- The field of a range, or its place when there is no such facet. -/
def rangeField (c : Config) (r : FacetRange) : String :=
  match c.facets[r.facet]? with
  | some f => f.field
  | none => "#" ++ toString r.facet

/-- The lines about selections and ranges. -/
def selectionLines (c : Config) (s : SearchState) : List String :=
  if s.selections.isEmpty && s.ranges.isEmpty then ["No selections."]
  else
    tableLines ["Key", "Value", "Logic"]
      (s.selections.map (fun x => [x.key, x.value.text, x.logic.name]) ++
        s.ranges.map fun r => [rangeField c r, r.low ++ ".." ++ r.high, "range"])

/-- The line about the sort keys. -/
def sortLines (s : SearchState) : List String :=
  if s.sort.isEmpty then []
  else ["Sort: " ++ ", ".intercalate (s.sort.map fun k => k.field ++ ":" ++ k.direction.name)]

/-- The lines about a state. -/
def stateLines (c : Config) (s : SearchState) : List String :=
  textLines s ++ selectionLines c s ++ sortLines s ++
    ["Paging: from " ++ toString s.page.offset ++ " size " ++ toString s.page.size]

end FacetedSearch
