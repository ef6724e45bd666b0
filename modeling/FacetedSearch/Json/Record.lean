import FacetedSearch.Json.Reader

/-!
# Records in JSON

A record is an object with a value under each of its names; other keys are passed over. It may also be an array of
its values in the order of the names. A missing value reads as null where that is allowed.
-/

namespace FacetedSearch

namespace Json

/-- The value of a record under a name, which stands at a place in arrays. -/
abbrev Fields := String → Nat → Option Json

/-- Reads a record with so many names, none of which has to be there. -/
def looseRecord? (size : Nat) : Json → Option Fields
  | .obj es => some fun name _ => Entries.get? es name
  | .arr vs => if vs.length ≤ size then some fun _ place => vs[place]? else none
  | _ => none

/-- Reads a record with so many names; an array has to hold them all. -/
def record? (size : Nat) : Json → Option Fields
  | .arr vs => if vs.length = size then looseRecord? size (.arr vs) else none
  | v => looseRecord? size v

/-- Refuses an object that repeats one of some keys. -/
def unrepeated? (names : List String) : Json → Option Json
  | .obj es => if names.all fun n => es.countP (·.1 == n) ≤ 1 then some (.obj es) else none
  | v => some v

/-- The name of a choice: a string, or the only key of an object with null under it. -/
def choice? : Json → Option String
  | .str s => some s
  | .obj [(s, .null)] => some s
  | _ => none

/-- An unsigned 64-bit integer. -/
def word? (v : Json) : Option Nat :=
  match v.nat? with
  | some n => if n < wordLimit then some n else none
  | none => none

/-- The items of an array, each read by the same reader. -/
def list? {α : Type} (item : Json → Option α) : Json → Option (List α)
  | .arr vs => vs.mapM item
  | _ => none

/-- Reads a value that may be null or missing. -/
def nullable? {α : Type} (read : Json → Option α) : Option Json → Option (Option α)
  | none => some none
  | some .null => some none
  | some v => (read v).map some

/-- Reads a value that may be missing. -/
def default? {α : Type} (read : Json → Option α) (d : α) : Option Json → Option α
  | none => some d
  | some v => read v

end Json

end FacetedSearch
