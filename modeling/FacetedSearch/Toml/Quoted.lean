import FacetedSearch.Json.Reader

/-!
# TOML strings

Strings stand between double quotes, where escapes are read, or between single quotes, where they are not. Three
quotes make a string of several lines; a line end right after the opening quotes is dropped, and so is all blank
space after a backslash at the end of a line.
-/

namespace FacetedSearch

namespace Toml

/-- Whether a character may stand in a string or comment as it is. -/
def isText (c : Char) : Bool :=
  c == '\t' || (0x20 ≤ c.toNat && c.toNat != 0x7F)

/-- The character of an escape by one letter. -/
def letterEscape? : Char → Option Char
  | 'b' => some '\x08'
  | 't' => some '\t'
  | 'n' => some '\n'
  | 'f' => some '\x0c'
  | 'r' => some '\r'
  | 'e' => some '\x1b'
  | '"' => some '"'
  | '\\' => some '\\'
  | _ => none

/-- The character with a code point given by hexadecimal digits. -/
def codeEscape? (ds : List Char) : Option Char := do
  let n ← Hex.number? ds
  if n < 0xD800 ∨ (0xDFFF < n ∧ n < 0x110000) then pure (Char.ofNat n) else none

/-- Reads an escape after its backslash. -/
def readEscape : List Char → Option (Char × List Char)
  | 'x' :: a :: b :: s => (codeEscape? [a, b]).map (·, s)
  | 'u' :: a :: b :: c :: d :: s => (codeEscape? [a, b, c, d]).map (·, s)
  | 'U' :: a :: b :: c :: d :: e :: f :: g :: h :: s => (codeEscape? [a, b, c, d, e, f, g, h]).map (·, s)
  | c :: s => (letterEscape? c).map (·, s)
  | [] => none

/-- Reads the rest of a string in double quotes. The first argument bounds its length. -/
def readBasic : Nat → List Char → Option (List Char × List Char)
  | 0, _ => none
  | _, [] => none
  | _ + 1, '"' :: s => some ([], s)
  | n + 1, '\\' :: s => do
    let (c, s) ← readEscape s
    let (cs, s) ← readBasic n s
    pure (c :: cs, s)
  | n + 1, c :: s =>
    if isText c then (readBasic n s).map fun (cs, s) => (c :: cs, s) else none

/-- Reads the rest of a string in single quotes. -/
def readLiteral : List Char → Option (List Char × List Char)
  | [] => none
  | '\'' :: s => some ([], s)
  | c :: s => if isText c then (readLiteral s).map fun (cs, s) => (c :: cs, s) else none

/-- Drops a line end. -/
def dropLineEnd : List Char → List Char
  | '\n' :: s => s
  | '\r' :: '\n' :: s => s
  | s => s

/-- Whether a character is a blank within a line. -/
def isSpace (c : Char) : Bool := c == ' ' || c == '\t'

/-- Whether a line ends here, after blanks. -/
def atLineEnd (s : List Char) : Bool :=
  match s.dropWhile isSpace with
  | '\n' :: _ => true
  | '\r' :: '\n' :: _ => true
  | _ => false

/-- Drops blanks and line ends. -/
def skipLineEnds : List Char → List Char
  | '\n' :: s => skipLineEnds s
  | '\r' :: '\n' :: s => skipLineEnds s
  | c :: s => if isSpace c then skipLineEnds s else c :: s
  | [] => []

/-- The end of a string of several lines: up to two more quotes belong to the string. -/
def closeQuotes (q : Char) (s : List Char) : List Char × List Char :=
  match s with
  | c :: d :: t => if c = q ∧ d = q then ([q, q], t) else if c = q then ([q], d :: t) else ([], s)
  | [c] => if c = q then ([q], []) else ([], s)
  | [] => ([], [])

/-- Reads the rest of a string of several lines in double quotes. The first argument bounds its length. -/
def readBasicLines : Nat → List Char → Option (List Char × List Char)
  | 0, _ => none
  | _, [] => none
  | _ + 1, '"' :: '"' :: '"' :: s => some (closeQuotes '"' s)
  | n + 1, '\r' :: '\n' :: s => (readBasicLines n s).map fun (cs, s) => ('\r' :: '\n' :: cs, s)
  | n + 1, '\n' :: s => (readBasicLines n s).map fun (cs, s) => ('\n' :: cs, s)
  | n + 1, '\\' :: s =>
    if atLineEnd s then readBasicLines n (skipLineEnds s)
    else do
      let (c, s) ← readEscape s
      let (cs, s) ← readBasicLines n s
      pure (c :: cs, s)
  | n + 1, c :: s =>
    if isText c then (readBasicLines n s).map fun (cs, s) => (c :: cs, s) else none

/-- Reads the rest of a string of several lines in single quotes. -/
def readLiteralLines : List Char → Option (List Char × List Char)
  | [] => none
  | '\'' :: '\'' :: '\'' :: s => some (closeQuotes '\'' s)
  | '\r' :: '\n' :: s => (readLiteralLines s).map fun (cs, s) => ('\r' :: '\n' :: cs, s)
  | '\n' :: s => (readLiteralLines s).map fun (cs, s) => ('\n' :: cs, s)
  | c :: s => if isText c then (readLiteralLines s).map fun (cs, s) => (c :: cs, s) else none

/-- Reads a string of one line, quotes included. -/
def readLineString (s : List Char) : Option (String × List Char) :=
  match s with
  | '"' :: s => (readBasic (s.length + 1) s).map fun (cs, s) => (String.ofList cs, s)
  | '\'' :: s => (readLiteral s).map fun (cs, s) => (String.ofList cs, s)
  | _ => none

/-- Reads a string, quotes included. -/
def readString (s : List Char) : Option (String × List Char) :=
  match s with
  | '"' :: '"' :: '"' :: s =>
    let s := dropLineEnd s
    (readBasicLines (s.length + 1) s).map fun (cs, s) => (String.ofList cs, s)
  | '\'' :: '\'' :: '\'' :: s => (readLiteralLines (dropLineEnd s)).map fun (cs, s) => (String.ofList cs, s)
  | s => readLineString s

end Toml

end FacetedSearch
