import FacetedSearch.Entries

/-!
# JSON values

Numbers are integers of the signed or unsigned 64-bit range, or doubles. Objects keep the order of their entries.

* `Json.get?`: the value under a key, nothing when the value is no object;
* `Json.same`: equality of values, where the order of an object's entries does not count;
* `Json.scalarText`: the text under which a string, a number or a truth value can be selected.
-/

namespace FacetedSearch

/-- A JSON number: an integer from `-2 ^ 63` up to `2 ^ 64 - 1`, or a finite double. -/
inductive JsonNumber
  | integer (n : Int)
  | real (x : Float)
  deriving DecidableEq

/-- A JSON value. -/
inductive Json
  | null
  | bool (b : Bool)
  | num (n : JsonNumber)
  | str (s : String)
  | arr (items : List Json)
  | obj (entries : List (String × Json))

instance : Inhabited Json := ⟨.null⟩

/-- Equal numbers; an integer never equals a double. -/
def JsonNumber.same : JsonNumber → JsonNumber → Bool
  | .integer a, .integer b => a == b
  | .real a, .real b => a == b
  | _, _ => false

mutual

/-- Equal values: objects are equal when they have as many entries and the same value under each key. -/
def Json.same : Json → Json → Bool
  | .null, .null => true
  | .bool a, .bool b => a == b
  | .num a, .num b => a.same b
  | .str a, .str b => a == b
  | .arr xs, .arr ys => Json.sameItems xs ys
  | .obj es, .obj fs => es.length == fs.length && Json.sameEntries es fs
  | _, _ => false

/-- Equal items at equal positions. -/
def Json.sameItems : List Json → List Json → Bool
  | [], [] => true
  | x :: xs, y :: ys => x.same y && Json.sameItems xs ys
  | _, _ => false

/-- Every entry of the first list is found in the second. -/
def Json.sameEntries : List (String × Json) → List (String × Json) → Bool
  | [], _ => true
  | (k, v) :: es, fs =>
    (match Entries.get? fs k with
      | some w => v.same w
      | none => false) && Json.sameEntries es fs

end

namespace Json

/-- A natural number as a JSON number. -/
def ofNat (n : Nat) : Json := .num (.integer n)

/-- The object with a single entry. -/
def keyed (key : String) (v : Json) : Json := .obj [(key, v)]

/-- An array of strings. -/
def ofStrings (ss : List String) : Json := .arr (ss.map .str)

/-- The value under a key of an object. -/
def get? : Json → String → Option Json
  | .obj es, key => Entries.get? es key
  | _, _ => none

/-- The text of a string. -/
def str? : Json → Option String
  | .str s => some s
  | _ => none

/-- The items of an array. -/
def items? : Json → Option (List Json)
  | .arr xs => some xs
  | _ => none

/-- The entries of an object. -/
def entries? : Json → Option (Entries Json)
  | .obj es => some es
  | _ => none

/-- The only entry of an object that has just one. -/
def single? : Json → Option (String × Json)
  | .obj [e] => some e
  | _ => none

/-- The value of a non-negative integer. -/
def nat? : Json → Option Nat
  | .num (.integer n) => if 0 ≤ n then some n.toNat else none
  | _ => none

/-- What kind of value this is, in words. -/
def kind : Json → String
  | .null => "null"
  | .bool _ => "boolean"
  | .num _ => "number"
  | .str _ => "string"
  | .arr _ => "array"
  | .obj _ => "object"

end Json

end FacetedSearch
