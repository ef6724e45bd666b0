import FacetedSearch.Json.Basic
import FacetedSearch.Decimal.Shortest
import FacetedSearch.Text.Hex

/-!
# Writing JSON

`Json.compact` writes without blanks and `Json.pretty` with one entry a line, indented by two blanks. Both keep the
order of entries and escape only quotes, backslashes and control characters.
-/

namespace FacetedSearch

/-- The text of a number. -/
def JsonNumber.text : JsonNumber → String
  | .integer n => toString n
  | .real x => doubleText x

namespace Json

/-- A character as it stands between quotes. -/
def escapeChar (c : Char) : List Char :=
  if c = '"' then ['\\', '"']
  else if c = '\\' then ['\\', '\\']
  else if c = '\x08' then ['\\', 'b']
  else if c = '\x0c' then ['\\', 'f']
  else if c = '\n' then ['\\', 'n']
  else if c = '\r' then ['\\', 'r']
  else if c = '\t' then ['\\', 't']
  else if c.toNat < 0x20 then '\\' :: 'u' :: '0' :: '0' :: Hex.lowerByte c.toNat
  else [c]

/-- A string between quotes. -/
def quote (s : String) : String :=
  "\"" ++ String.ofList (s.toList.flatMap escapeChar) ++ "\""

mutual

/-- The text of a value without blanks. -/
def compact : Json → String
  | .null => "null"
  | .bool b => if b then "true" else "false"
  | .num n => n.text
  | .str s => quote s
  | .arr xs => "[" ++ compactItems xs ++ "]"
  | .obj es => "\x7b" ++ compactEntries es ++ "\x7d"

/-- Items with commas between them. -/
def compactItems : List Json → String
  | [] => ""
  | [x] => x.compact
  | x :: y :: xs => x.compact ++ "," ++ compactItems (y :: xs)

/-- Entries with commas between them. -/
def compactEntries : List (String × Json) → String
  | [] => ""
  | [(k, v)] => quote k ++ ":" ++ v.compact
  | (k, v) :: e :: es => quote k ++ ":" ++ v.compact ++ "," ++ compactEntries (e :: es)

end

/-- Blanks before a line at some depth. -/
def indent (depth : Nat) : String := String.ofList (List.replicate (2 * depth) ' ')

mutual

/-- The text of a value whose inner lines stand one level below `depth`. -/
def prettyAt (depth : Nat) : Json → String
  | .null => "null"
  | .bool b => if b then "true" else "false"
  | .num n => n.text
  | .str s => quote s
  | .arr [] => "[]"
  | .arr (x :: xs) => "[\n" ++ prettyItems (depth + 1) (x :: xs) ++ "\n" ++ indent depth ++ "]"
  | .obj [] => "\x7b\x7d"
  | .obj (e :: es) => "\x7b\n" ++ prettyEntries (depth + 1) (e :: es) ++ "\n" ++ indent depth ++ "\x7d"

/-- Items on lines of their own. -/
def prettyItems (depth : Nat) : List Json → String
  | [] => ""
  | [x] => indent depth ++ prettyAt depth x
  | x :: y :: xs => indent depth ++ prettyAt depth x ++ ",\n" ++ prettyItems depth (y :: xs)

/-- Entries on lines of their own. -/
def prettyEntries (depth : Nat) : List (String × Json) → String
  | [] => ""
  | [(k, v)] => indent depth ++ quote k ++ ": " ++ prettyAt depth v
  | (k, v) :: e :: es =>
    indent depth ++ quote k ++ ": " ++ prettyAt depth v ++ ",\n" ++ prettyEntries depth (e :: es)

end

/-- The text of a value, indented by two blanks a level. -/
def pretty (v : Json) : String := prettyAt 0 v

/-- The text under which a string, a number or a truth value can be selected. -/
def scalarText : Json → Option String
  | .str s => some s
  | .num n => some n.text
  | .bool b => some (if b then "true" else "false")
  | _ => none

end Json

end FacetedSearch
