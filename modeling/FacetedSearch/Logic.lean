import FacetedSearch.Text.Blank

/-!
# Logic, value order and fuzziness

The small choices that every part of the library shares: how constraints combine, in which order the values of a
facet are shown, and how the words of a free text are loosened.
-/

namespace FacetedSearch

/-- How the constraints on one key, or the words of a free text, combine. -/
inductive Logic
  | and
  | or
  deriving DecidableEq, Inhabited

/-- The order in which the values of a facet are requested and shown. -/
inductive ValueOrder
  | term
  | reverseTerm
  | count
  | reverseCount
  deriving DecidableEq, Inhabited

/-- How the words of a free text are loosened. -/
inductive Fuzziness
  | off
  | wildcard
  | approximate
  deriving DecidableEq, Inhabited

/-- A word that names no known choice. -/
structure UnknownName where
  what : String
  name : String
  deriving DecidableEq

/-- The fault in words. -/
def UnknownName.message (u : UnknownName) : String :=
  "unknown " ++ u.what ++ " '" ++ u.name ++ "'"

namespace Logic

/-- The other combination. -/
def flip : Logic → Logic
  | .and => .or
  | .or => .and

/-- The name of a combination in documents. -/
def name : Logic → String
  | .and => "AND"
  | .or => "OR"

/-- The combination with exactly this name. -/
def ofName? : String → Option Logic
  | "AND" => some .and
  | "OR" => some .or
  | _ => none

/-- The combination with this name, in any case of its letters. -/
def parse (s : String) : Except UnknownName Logic :=
  match ofName? (asciiUpper s) with
  | some l => .ok l
  | none => .error ⟨"logic", s⟩

theorem ofName?_name (l : Logic) : ofName? l.name = some l := by
  cases l <;> rfl

end Logic

namespace ValueOrder

/-- The next order in the cycle term, reverse term, count, reverse count. -/
def next : ValueOrder → ValueOrder
  | .term => .reverseTerm
  | .reverseTerm => .count
  | .count => .reverseCount
  | .reverseCount => .term

/-- The name of an order in documents. -/
def name : ValueOrder → String
  | .term => "term"
  | .reverseTerm => "reverse_term"
  | .count => "count"
  | .reverseCount => "reverse_count"

/-- The order with exactly this name. -/
def ofName? : String → Option ValueOrder
  | "term" => some .term
  | "reverse_term" => some .reverseTerm
  | "count" => some .count
  | "reverse_count" => some .reverseCount
  | _ => none

/-- The order with this name or short name. -/
def parse (s : String) : Except UnknownName ValueOrder :=
  match ofName? s, s with
  | some o, _ => .ok o
  | none, "rterm" => .ok .reverseTerm
  | none, "rcount" => .ok .reverseCount
  | none, _ => .error ⟨"facet order", s⟩

end ValueOrder

namespace Fuzziness

/-- The name of a fuzziness in settings. -/
def name : Fuzziness → String
  | .off => "none"
  | .wildcard => "*"
  | .approximate => "~"

/-- The fuzziness with this name. -/
def ofName? : String → Option Fuzziness
  | "none" => some .off
  | "off" => some .off
  | "*" => some .wildcard
  | "~" => some .approximate
  | _ => none

theorem ofName?_name (f : Fuzziness) : ofName? f.name = some f := by
  cases f <;> rfl

/-- A word as it is sent to the backend. -/
def decorate : Fuzziness → List Char → List Char
  | .off, w => w
  | .wildcard, w => '*' :: w ++ ['*']
  | .approximate, w => w ++ ['~']

end Fuzziness

/-- Whether a character marks a text as written in the backend's own query language. -/
def isQuerySyntax (c : Char) : Bool := c == '*' || c == '~' || c == ':'

/-- Words with single spaces between them. -/
def joinWords : List (List Char) → List Char
  | [] => []
  | [w] => w
  | w :: v :: ws => w ++ ' ' :: joinWords (v :: ws)

/-- Decorates every word and joins the words by single spaces; a text in query syntax stays as it is. -/
def fuzzify (f : Fuzziness) (text : List Char) : List Char :=
  if f = .off ∨ text.any isQuerySyntax then text
  else joinWords ((words text).map f.decorate)

/-- The free text that is sent to the backend. -/
def fuzzifyText (f : Fuzziness) (text : String) : String :=
  String.ofList (fuzzify f text.toList)

end FacetedSearch
