import FacetedSearch.Config.Basic

/-!
# Selection state

What a user has chosen: filter values, ranges, free text, sort keys and the page. Every change of the filters goes
back to the start of the results. Operations return the new state and whether it changed.

* `SearchState.select`: adds a value; all selections of a key share one logic;
* `SearchState.signature`: the selections and ranges as a sorted list without repetitions.
-/

namespace FacetedSearch

/-- The value that stands for records without a value. -/
def undefinedText : String := "undefined"

/-- The value of a selection: a term, or no value at all. -/
inductive Choice
  | term (value : String)
  | undefined
  deriving DecidableEq

/-- The text of a choice, as it appears among counts. -/
def Choice.text : Choice → String
  | .term v => v
  | .undefined => undefinedText

/-- The choice with a text. -/
def Choice.ofText (s : String) : Choice :=
  if s = undefinedText then .undefined else .term s

/-- A filter value that has been chosen. -/
structure Selection where
  key : String
  value : Choice
  logic : Logic
  deriving DecidableEq

/-- Bounds on the values of a facet, which is given by its place. -/
structure FacetRange where
  facet : Nat
  low : String
  high : String
  deriving DecidableEq

/-- A direction of sorting. -/
inductive Direction
  | asc
  | desc
  deriving DecidableEq

/-- The name of a direction in documents. -/
def Direction.name : Direction → String
  | .asc => "asc"
  | .desc => "desc"

/-- The direction with exactly this name. -/
def Direction.ofName? : String → Option Direction
  | "asc" => some .asc
  | "desc" => some .desc
  | _ => none

/-- A field to sort by. -/
structure SortKey where
  field : String
  direction : Direction
  deriving DecidableEq

namespace SortKey

/-- The sort key as the backend reads it. -/
def toJson (k : SortKey) : Json := .keyed k.field (.keyed "order" (.str k.direction.name))

/-- The direction with a name, in any case of its letters. -/
def readDirection (s : String) : Option Direction :=
  Direction.ofName? (String.ofList (s.toList.map Char.toLower))

/-- Reads a sort key: a field alone, a field with a direction, or a field with a direction under `order`. -/
def ofJson? : Json → Option SortKey
  | .str field => some ⟨field, .asc⟩
  | .obj [(field, .str s)] => (readDirection s).map (⟨field, ·⟩)
  | .obj [(field, .obj es)] => do
    let s ← (← Entries.get? es "order").str?
    pure ⟨field, ← readDirection s⟩
  | _ => none

end SortKey

/-- All that a user has chosen. -/
structure SearchState where
  freeText : String := ""
  searchField : Option String := none
  sort : List SortKey := []
  page : Page := {}
  selections : List Selection := []
  ranges : List FacetRange := []
  deriving DecidableEq

namespace SearchState

/-- The state in which nothing is chosen, at some page. -/
def start (page : Page) : SearchState := { page }

/-- The state at the start of its results. -/
def rewind (s : SearchState) : SearchState := { s with page := { s.page with offset := 0 } }

/-- The logic of a key that has selections. -/
def keyLogic (s : SearchState) (key : String) : Option Logic :=
  (s.selections.find? (·.key == key)).map (·.logic)

/-- The selections of a key. -/
def selectionsFor (s : SearchState) (key : String) : List Selection :=
  s.selections.filter (·.key == key)

/-- Whether a value of a key is selected. -/
def isSelected (s : SearchState) (key : String) (v : Choice) : Bool :=
  s.selections.any fun x => x.key == key && x.value == v

/-- Gives all selections of a key one logic. -/
def withLogic (key : String) (l : Logic) (xs : List Selection) : List Selection :=
  xs.map fun x => if x.key == key then { x with logic := l } else x

/-- Selects a value. The whole key takes the given logic. -/
def select (s : SearchState) (key : String) (v : Choice) (l : Logic) : SearchState × Bool :=
  let switched := s.keyLogic key == some l.flip
  let present := s.isSelected key v
  let xs := if switched then withLogic key l s.selections else s.selections
  let ys := if present then xs else xs ++ [⟨key, v, l⟩]
  if switched || !present then ({ s with selections := ys }.rewind, true) else (s, false)

/-- Drops a selection. -/
def deselect (s : SearchState) (key : String) (v : Choice) : SearchState × Bool :=
  if s.isSelected key v then
    ({ s with selections := s.selections.eraseP fun x => x.key == key && x.value == v }.rewind, true)
  else (s, false)

/-- Gives all selections of a key the other logic. -/
def toggleLogic (s : SearchState) (key : String) : SearchState × Bool :=
  match s.keyLogic key with
  | some l => ({ s with selections := withLogic key l.flip s.selections }.rewind, true)
  | none => (s, false)

/-- Puts a range in the place of the first one on its facet, or at the end. -/
def putRange (r : FacetRange) : List FacetRange → List FacetRange
  | [] => [r]
  | x :: xs => if x.facet = r.facet then r :: xs else x :: putRange r xs

/-- Bounds a facet. -/
def setRange (s : SearchState) (r : FacetRange) : SearchState :=
  { s with ranges := putRange r s.ranges }.rewind

/-- Lifts the bounds of a facet. -/
def clearRange (s : SearchState) (facet : Nat) : SearchState × Bool :=
  let rs := s.ranges.filter (·.facet != facet)
  if rs.length = s.ranges.length then (s, false) else ({ s with ranges := rs }.rewind, true)

/-- Sets the free text. -/
def setFreeText (s : SearchState) (text : String) : SearchState × Bool :=
  if s.freeText = text then (s, false) else ({ s with freeText := text }.rewind, true)

/-- Restricts the free text to a field; an empty name lifts the restriction. -/
def setSearchField (s : SearchState) (field : Option String) : SearchState × Bool :=
  let field := field.filter (!·.isEmpty)
  if s.searchField = field then (s, false) else ({ s with searchField := field }.rewind, true)

/-- Sets the sort keys. -/
def setSort (s : SearchState) (sort : List SortKey) : SearchState × Bool :=
  if s.sort = sort then (s, false) else ({ s with sort }.rewind, true)

/-- Goes to an offset. -/
def setOffset (s : SearchState) (offset : Nat) : SearchState × Bool :=
  ({ s with page := { s.page with offset } }, s.page.offset != offset)

/-- Sets the page size and goes to the start. -/
def setSize (s : SearchState) (size : Nat) : SearchState × Bool :=
  ({ s with page := ⟨0, size⟩ }, s.page.size != size || s.page.offset != 0)

/-- Drops selections, ranges and free text, and goes to the start. -/
def clear (s : SearchState) : SearchState :=
  { s with selections := [], ranges := [], freeText := "" }.rewind

/-- Whether nothing restricts the search. -/
def isEmpty (s : SearchState) : Bool :=
  s.selections.isEmpty && s.ranges.isEmpty && s.freeText.isEmpty

/-- The line of a selection in a signature. -/
def selectionLine (x : Selection) : String := x.key ++ "=" ++ x.value.text ++ ":" ++ x.logic.name

/-- The line of a range in a signature. -/
def rangeLine (r : FacetRange) : String := "#" ++ toString r.facet ++ "=" ++ r.low ++ ".." ++ r.high

/-- A list without repetitions of neighbours. -/
def dropRepeats : List String → List String
  | [] => []
  | [a] => [a]
  | a :: b :: xs => if a = b then dropRepeats (b :: xs) else a :: dropRepeats (b :: xs)

/-- The selections and ranges as sorted lines, in which the order of choosing is lost. -/
def signature (s : SearchState) : List String :=
  dropRepeats ((s.selections.map selectionLine ++ s.ranges.map rangeLine).mergeSort (· ≤ ·))

end SearchState

end FacetedSearch
