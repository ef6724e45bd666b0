import FacetedSearch.Json.Number
import FacetedSearch.Text.Hex

/-!
# Reading JSON

`Json.parse` reads a whole text; a repeated key keeps its first place and its last value. `Json.parseLiteral` keeps
repeated keys as they stand. Strings hold no raw control characters and no lone surrogates, and arrays and objects
are nested at most `Json.maxDepth` deep.
-/

namespace FacetedSearch

namespace Json

/-- How deep arrays and objects may be nested. -/
def maxDepth : Nat := 127

/-- What reads a value from the front of a text, and returns the rest of the text. -/
abbrev Reader (α : Type) := List Char → Option (α × List Char)

/-- Drops the blanks that may stand between tokens. -/
def skipBlank (s : List Char) : List Char :=
  s.dropWhile fun c => c = ' ' || c = '\n' || c = '\t' || c = '\r'

/-- The character of a one-letter escape. -/
def simpleEscape? : Char → Option Char
  | '"' => some '"'
  | '\\' => some '\\'
  | '/' => some '/'
  | 'b' => some '\x08'
  | 'f' => some '\x0c'
  | 'n' => some '\n'
  | 'r' => some '\r'
  | 't' => some '\t'
  | _ => none

/-- Whether a 16-bit unit is the first half of a surrogate pair. -/
def isHighHalf (n : Nat) : Bool := 0xD800 ≤ n && n ≤ 0xDBFF

/-- Whether a 16-bit unit is the second half of a surrogate pair. -/
def isLowHalf (n : Nat) : Bool := 0xDC00 ≤ n && n ≤ 0xDFFF

/-- Reads the rest of a string, whose opening quote has been read. -/
def readChars : Reader (List Char)
  | [] => none
  | '"' :: s => some ([], s)
  | '\\' :: 'u' :: a :: b :: c :: d :: s => do
    let n ← Hex.number? [a, b, c, d]
    if isLowHalf n then none
    else if isHighHalf n then
      match s with
      | '\\' :: 'u' :: e :: f :: g :: h :: t => do
        let m ← Hex.number? [e, f, g, h]
        if isLowHalf m then
          let (cs, rest) ← readChars t
          pure (Char.ofNat (0x10000 + (n - 0xD800) * 0x400 + (m - 0xDC00)) :: cs, rest)
        else none
      | _ => none
    else
      let (cs, rest) ← readChars s
      pure (Char.ofNat n :: cs, rest)
  | '\\' :: c :: s => do
    let e ← simpleEscape? c
    let (cs, rest) ← readChars s
    pure (e :: cs, rest)
  | c :: s =>
    if c.toNat < 0x20 then none
    else do
      let (cs, rest) ← readChars s
      pure (c :: cs, rest)

/-- Reads items up to the closing bracket. The first argument bounds their number. -/
def readItems (item : Reader Json) : Nat → Reader (List Json)
  | 0, _ => none
  | n + 1, s => do
    let (v, s) ← item (skipBlank s)
    match skipBlank s with
    | ']' :: s => pure ([v], s)
    | ',' :: s =>
      let (vs, s) ← readItems item n s
      pure (v :: vs, s)
    | _ => none

/-- Reads entries up to the closing brace. The first argument bounds their number. -/
def readEntries (item : Reader Json) : Nat → Reader (Entries Json)
  | 0, _ => none
  | n + 1, s => do
    match skipBlank s with
    | '"' :: s =>
      let (key, s) ← readChars s
      match skipBlank s with
      | ':' :: s =>
        let (v, s) ← item (skipBlank s)
        match skipBlank s with
        | '}' :: s => pure ([(String.ofList key, v)], s)
        | ',' :: s =>
          let (es, s) ← readEntries item n s
          pure ((String.ofList key, v) :: es, s)
        | _ => none
      | _ => none
    | _ => none

/-- Reads a value that starts at the front of a text and is nested at most `depth` deep. -/
def readValue : Nat → Reader Json
  | depth, s =>
    match s with
    | 'n' :: 'u' :: 'l' :: 'l' :: s => some (.null, s)
    | 't' :: 'r' :: 'u' :: 'e' :: s => some (.bool true, s)
    | 'f' :: 'a' :: 'l' :: 's' :: 'e' :: s => some (.bool false, s)
    | '"' :: s => (readChars s).map fun (cs, s) => (.str (String.ofList cs), s)
    | '[' :: s =>
      match depth, skipBlank s with
      | 0, _ => none
      | _ + 1, ']' :: s => some (.arr [], s)
      | depth + 1, s => (readItems (readValue depth) (s.length + 1) s).map fun (vs, s) => (.arr vs, s)
    | '{' :: s =>
      match depth, skipBlank s with
      | 0, _ => none
      | _ + 1, '}' :: s => some (.obj [], s)
      | depth + 1, s => (readEntries (readValue depth) (s.length + 1) s).map fun (es, s) => (.obj es, s)
    | s => (JsonNumber.read s).map fun (n, s) => (.num n, s)

/-- Reads a text that holds one value and blanks around it, repeated keys included. -/
def parseLiteral (text : String) : Option Json := do
  let (v, rest) ← readValue maxDepth (skipBlank text.toList)
  if (skipBlank rest).isEmpty then some v else none

mutual

/-- The value with every repeated key at its first place and with its last value. -/
def normal : Json → Json
  | .arr vs => .arr (normalItems vs)
  | .obj es => .obj ((normalEntries es).foldl (fun acc (k, v) => Entries.put acc k v) [])
  | v => v

/-- All items without repeated keys. -/
def normalItems : List Json → List Json
  | [] => []
  | v :: vs => normal v :: normalItems vs

/-- All entries, each with a value without repeated keys. -/
def normalEntries : List (String × Json) → List (String × Json)
  | [] => []
  | (k, v) :: es => (k, normal v) :: normalEntries es

end

/-- Reads a text that holds one value and blanks around it. -/
def parse (text : String) : Option Json :=
  (parseLiteral text).map normal

end Json

end FacetedSearch
