import FacetedSearch.Toml.Builder
import FacetedSearch.Toml.Quoted
import FacetedSearch.Toml.Scalar

/-!
# Reading TOML

`Toml.parse` reads a whole file into its table of entries, in the order in which they were written. Arrays and inline
tables may run over several lines, may end in a comma, and are nested at most `Toml.maxDepth` deep. A dotted key has at
most as many parts.
-/

namespace FacetedSearch

namespace Toml

/-- How deep arrays and inline tables may be nested, and how many parts a key may have. -/
def maxDepth : Nat := 80

/-- What reads a value from the front of a text, and returns the rest of the text. -/
abbrev Reader (α : Type) := List Char → Option (α × List Char)

/-- Drops blanks within a line. -/
def skipSpace (s : List Char) : List Char := s.dropWhile isSpace

/-- Drops blanks, line ends and comments. The first argument says whether a comment has begun. -/
def skipTrivia : Bool → List Char → Option (List Char)
  | _, [] => some []
  | _, '\n' :: s => skipTrivia false s
  | _, '\r' :: '\n' :: s => skipTrivia false s
  | true, c :: s => if isText c then skipTrivia true s else none
  | false, '#' :: s => skipTrivia true s
  | false, c :: s => if isSpace c then skipTrivia false s else some (c :: s)

/-- Whether a character may stand in a key without quotes. -/
def isBareKey (c : Char) : Bool := c.isAlphanum || c == '_' || c == '-'

/-- Reads one part of a key. -/
def readKeyPart : Reader String
  | '"' :: s => readLineString ('"' :: s)
  | '\'' :: s => readLineString ('\'' :: s)
  | s =>
    let ds := s.takeWhile isBareKey
    if ds.isEmpty then none else some (String.ofList ds, s.dropWhile isBareKey)

/-- Reads a dotted key as the path to its last part and that part. The first argument bounds the number of its
parts. -/
def readKey : Nat → Reader (List String × String)
  | 0, _ => none
  | n + 1, s => do
    let (k, s) ← readKeyPart (skipSpace s)
    match skipSpace s with
    | '.' :: s =>
      let ((ks, key), s) ← readKey n s
      pure ((k :: ks, key), s)
    | s => pure (([], k), s)

/-- Reads the items of an array up to its closing bracket. The first argument bounds their number. -/
def readItems (item : Reader Toml) : Nat → Reader (List Toml)
  | 0, _ => none
  | n + 1, s => do
    match ← skipTrivia false s with
    | ']' :: s => pure ([], s)
    | s =>
      let (v, s) ← item s
      match ← skipTrivia false s with
      | ']' :: s => pure ([v], s)
      | ',' :: s =>
        let (vs, s) ← readItems item n s
        pure (v :: vs, s)
      | _ => none

/-- Reads the entries of an inline table up to its closing brace. The first argument bounds their number. -/
def readEntries (item : Reader Toml) : Nat → TableNode → Reader TableNode
  | 0, _, _ => none
  | n + 1, t, s => do
    match ← skipTrivia false s with
    | '}' :: s => pure (t, s)
    | s =>
      let ((path, key), s) ← readKey maxDepth s
      match ← skipTrivia false s with
      | '=' :: s =>
        let (v, s) ← item (← skipTrivia false s)
        let t ← t.assign path key v
        match ← skipTrivia false s with
        | '}' :: s => pure (t, s)
        | ',' :: s => readEntries item n t s
        | _ => none
      | _ => none

/-- Reads a value that is nested at most `depth` deep. -/
def readValue : Nat → Reader Toml
  | depth, s =>
    match depth, s with
    | _, '"' :: s => (readString ('"' :: s)).map fun (v, s) => (.str v, s)
    | _, '\'' :: s => (readString ('\'' :: s)).map fun (v, s) => (.str v, s)
    | 0, '[' :: _ => none
    | 0, '{' :: _ => none
    | depth + 1, '[' :: s => (readItems (readValue depth) (s.length + 1) s).map fun (vs, s) => (.arr vs, s)
    | depth + 1, '{' :: s =>
      (readEntries (readValue depth) (s.length + 1) (.empty .header) s).map fun (t, s) => (.table t.finish, s)
    | _, s => do
      let (token, rest) := takeScalar s
      let v ← scalar? token
      pure (v, rest)

/-- Reads what may stand between an entry and the end of its line. -/
def endLine (s : List Char) : Option (List Char) :=
  match skipSpace s with
  | [] => some []
  | '\n' :: s => some s
  | '\r' :: '\n' :: s => some s
  | '#' :: s => skipTrivia true s
  | _ => none

/-- A place where entries go: the path of the last header. -/
structure Section where
  path : List String

/-- Gives a value to a dotted key of a section. -/
def Section.assign (sec : Section) (path : List String) (key : String) (v : Toml) (t : TableNode) :
    Option TableNode :=
  t.descend false (TableNode.assign path key v) sec.path

/-- Reads the lines of a file. The first argument bounds their number. -/
def readLines : Nat → Section → TableNode → List Char → Option TableNode
  | 0, _, _, _ => none
  | n + 1, sec, t, s => do
    match ← skipTrivia false s with
    | [] => pure t
    | '[' :: '[' :: s =>
      let ((path, key), s) ← readKey maxDepth s
      match skipSpace s with
      | ']' :: ']' :: s =>
        let t ← t.openElement path key
        readLines n ⟨path ++ [key]⟩ t (← endLine s)
      | _ => none
    | '[' :: s =>
      let ((path, key), s) ← readKey maxDepth s
      match skipSpace s with
      | ']' :: s =>
        let t ← t.openTable path key
        readLines n ⟨path ++ [key]⟩ t (← endLine s)
      | _ => none
    | s =>
      let ((path, key), s) ← readKey maxDepth s
      match skipSpace s with
      | '=' :: s =>
        let (v, s) ← readValue maxDepth (skipSpace s)
        let t ← sec.assign path key v t
        readLines n sec t (← endLine s)
      | _ => none

/-- Reads a file; a byte order mark at its start is dropped. -/
def parse (text : String) : Option (Entries Toml) :=
  let s := match text.toList with
    | '\uFEFF' :: s => s
    | s => s
  (readLines (s.length + 1) ⟨[]⟩ (.empty .header) s).map TableNode.finish

end Toml

end FacetedSearch
