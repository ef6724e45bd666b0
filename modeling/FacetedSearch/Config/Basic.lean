import FacetedSearch.Config.Hierarchy
import FacetedSearch.Json.Basic
import FacetedSearch.Logic

/-!
# Configuration

A configuration describes one search interface: where the backend is, how searches run, which facets there are,
which key prefixes stand for nested objects, and the filters that every search carries.

* `Config.nestedPrefix`: the longest declared prefix that a key stands under;
* `mem_of_nestedPrefix`: the prefix is declared and the key stands under it.
-/

namespace FacetedSearch

/-- How a document is sent: in the address, or as the body. -/
inductive Method
  | get
  | post
  deriving DecidableEq

/-- The name of a method in settings. -/
def Method.name : Method → String
  | .get => "get"
  | .post => "post"

/-- The method with this name. -/
def Method.ofName? : String → Option Method
  | "get" => some .get
  | "post" => some .post
  | _ => none

theorem Method.ofName?_name (m : Method) : ofName? m.name = some m := by
  cases m <;> rfl

/-- A page of results: where it starts and how long it is. -/
structure Page where
  offset : Nat := 0
  size : Nat := 10
  deriving DecidableEq

/-- Where the backend is. -/
structure BackendSettings where
  url : Option String := none
  method : Method := .get
  timeout : Nat := 30
  deriving DecidableEq

/-- How searches run. -/
structure SearchSettings where
  operator : Logic := .or
  fuzziness : Fuzziness := .off
  delay : Nat := 500
  addUndefined : Bool := false
  pruneZero : Bool := true
  shareFacets : Bool := false
  deriving DecidableEq

/-- A sort key that is offered to users. -/
structure SortOption where
  field : String
  display : Option String := none
  deriving DecidableEq

/-- How records are read and sorted. -/
structure ResultSettings where
  fields : Option (List String) := none
  partialFields : Option Json := none
  sortOptions : List SortOption := []

/-- A field whose values are counted and offered for selection. -/
structure Facet where
  field : String
  display : Option String := none
  order : ValueOrder := .term
  size : Option Nat := none
  minSize : Option Nat := none
  operator : Logic := .and
  deriving DecidableEq

/-- What a facet is called: its label, or else its field. -/
def Facet.label (f : Facet) : String := f.display.getD f.field

/-- The description of a search interface. -/
structure Config where
  backend : BackendSettings := {}
  search : SearchSettings := {}
  paging : Page := {}
  results : ResultSettings := {}
  facets : List Facet := []
  nested : List String := []
  filters : Entries Json := []
  hierarchies : Entries (List ValueTree) := []
  extraFacets : Entries Json := []
  root : Option String := none

/-- Whether a key stands under a prefix: it is the prefix, or goes on with a point after it. -/
def isUnder (key pre : String) : Bool :=
  key == pre || (pre.toList ++ ['.']).isPrefixOf key.toList

/-- The longer of two texts; of two equally long ones the later. -/
def longer (best : Option String) (p : String) : Option String :=
  match best with
  | some b => if p.utf8ByteSize < b.utf8ByteSize then some b else some p
  | none => some p

namespace Config

/-- The facet of a field. -/
def facet? (c : Config) (field : String) : Option Facet := c.facets.find? (·.field == field)

/-- The place of the facet of a field. -/
def facetIndex? (c : Config) (field : String) : Option Nat := c.facets.findIdx? (·.field == field)

/-- The longest nested prefix that a key stands under. -/
def nestedPrefix (c : Config) (key : String) : Option String :=
  (c.nested.filter (isUnder key)).foldl longer none

/-- The hierarchy over the values of a field. -/
def hierarchy? (c : Config) (field : String) : Option (List ValueTree) := c.hierarchies.get? field

private theorem longer_mem (ps : List String) (b : Option String) (p : String)
    (h : ps.foldl longer b = some p) : p ∈ ps ∨ b = some p := by
  induction ps generalizing b with
  | nil => exact Or.inr h
  | cons q qs ih =>
    rcases ih _ h with hm | hb
    · exact Or.inl (List.mem_cons_of_mem _ hm)
    · cases b with
      | none => exact Or.inl (by simp only [longer, Option.some.injEq] at hb; simp [hb])
      | some b =>
        simp only [longer] at hb
        split at hb
        · exact Or.inr hb
        · exact Or.inl (by simp only [Option.some.injEq] at hb; simp [hb])

theorem mem_of_nestedPrefix {c : Config} {key p : String} (h : c.nestedPrefix key = some p) :
    p ∈ c.nested ∧ isUnder key p = true := by
  rcases longer_mem _ _ _ h with hm | hn
  · exact List.mem_filter.mp hm
  · cases hn

end Config

end FacetedSearch
