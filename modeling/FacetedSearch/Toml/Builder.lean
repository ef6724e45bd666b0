import FacetedSearch.Toml.Value

/-!
# Building a TOML table

A file gives values to dotted keys and opens tables by headers. A table remembers how it came to be, since that
decides what may still be added to it: a header may open a table only once, a dotted key may extend only tables
that dotted keys made, and a value that is written out is closed.

* `TableNode.assign`: gives a value to a dotted key;
* `TableNode.openTable`, `TableNode.openElement`: open the table of a header.
-/

namespace FacetedSearch

namespace Toml

/-- How a table came to be: by a header of its own, on the way to another header, or by a dotted key. -/
inductive Origin
  | header
  | passedBy
  | dotted
  deriving DecidableEq

/-- A table under construction, or a value that is closed. -/
inductive Node
  | closed (v : Toml)
  | table (origin : Origin) (entries : List (String × Node))
  | elements (tables : List (List (String × Node)))

/-- A table under construction. -/
structure TableNode where
  origin : Origin
  entries : Entries Node

namespace TableNode

/-- The table that a header stands for. -/
def empty (origin : Origin) : TableNode := ⟨origin, []⟩

/-- Changes the table at the end of a path, which is built where it is missing. Dotted keys may not pass through a
table that has a header. -/
def descend (dotted : Bool) (change : TableNode → Option TableNode) : List String → TableNode → Option TableNode
  | [], t => change t
  | k :: ks, t =>
    match t.entries.get? k with
    | none => do
      let s ← descend dotted change ks (empty (if dotted then .dotted else .passedBy))
      pure { t with entries := t.entries.put k (.table s.origin s.entries) }
    | some (.table origin es) =>
      if dotted && origin == .header then none
      else do
        let s ← descend dotted change ks ⟨origin, es⟩
        pure { t with entries := t.entries.put k (.table s.origin s.entries) }
    | some (.elements ts) =>
      match ts.reverse with
      | [] => none
      | last :: before => do
        let s ← descend dotted change ks ⟨.header, last⟩
        pure { t with entries := t.entries.put k (.elements (before.reverse ++ [s.entries])) }
    | some (.closed _) => none

/-- Gives a value to a dotted key, whose last part has no value yet. -/
def assign (path : List String) (key : String) (v : Toml) (t : TableNode) : Option TableNode :=
  let add (s : TableNode) : Option TableNode :=
    if (s.origin == .dotted) == path.isEmpty || (s.entries.get? key).isSome then none
    else some { s with entries := s.entries.put key (.closed v) }
  descend true add path t

/-- Opens the table of a header. A table that was only passed by moves to the end of its parent. -/
def openTable (path : List String) (key : String) (t : TableNode) : Option TableNode :=
  let add (s : TableNode) : Option TableNode :=
    match s.entries.get? key with
    | none => some { s with entries := s.entries.put key (.table .header []) }
    | some (.table .passedBy es) =>
      some { s with entries := s.entries.filter (·.1 != key) ++ [(key, .table .header es)] }
    | some _ => none
  descend false add path t

/-- Opens another table of the array that a header names. -/
def openElement (path : List String) (key : String) (t : TableNode) : Option TableNode :=
  let add (s : TableNode) : Option TableNode :=
    match s.entries.get? key with
    | none => some { s with entries := s.entries.put key (.elements [[]]) }
    | some (.elements ts) => some { s with entries := s.entries.put key (.elements (ts ++ [[]])) }
    | some _ => none
  descend false add path t

end TableNode

mutual

/-- The value that has been built. -/
def Node.finish : Node → Toml
  | .closed v => v
  | .table _ es => .table (finishEntries es)
  | .elements ts => .arr (finishTables ts)

/-- The values of all entries. -/
def finishEntries : List (String × Node) → List (String × Toml)
  | [] => []
  | (k, n) :: es => (k, n.finish) :: finishEntries es

/-- The values of all tables of an array. -/
def finishTables : List (List (String × Node)) → List Toml
  | [] => []
  | es :: ts => .table (finishEntries es) :: finishTables ts

end

/-- The table that has been built. -/
def TableNode.finish (t : TableNode) : Entries Toml := finishEntries t.entries

end Toml

end FacetedSearch
