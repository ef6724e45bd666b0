import FacetedSearch.Clause.Writer
import FacetedSearch.Json.Writer
import FacetedSearch.Text.Quoted

/-!
# Clauses as an indented tree

Every clause stands on a line of its own, its parts below it and indented by two blanks a level.
-/

namespace FacetedSearch

/-- The description of a free-text query. -/
def TextQuery.describe (q : TextQuery) : String :=
  showQuoted q.text ++
    (match q.field with
      | some f => ", field=" ++ f
      | none => "") ++
    (match q.operator with
      | some l => ", operator=" ++ l.name
      | none => "")

namespace Clause

/-- A line at some depth. -/
def line (depth : Nat) (s : String) : String := Json.indent depth ++ s ++ "\n"

mutual

/-- The lines of a clause whose first line stands at some depth. -/
def treeAt (depth : Nat) : Clause → String
  | .matchAll => line depth "MatchAll"
  | .term f v => line depth ("Term(" ++ f ++ " = " ++ showQuoted v ++ ")")
  | .missing f => line depth ("Missing(" ++ f ++ ")")
  | .range f low high => line depth ("Range(" ++ f ++ ": " ++ showQuoted low ++ " ..= " ++ showQuoted high ++ ")")
  | .text q => line depth ("QueryString(" ++ q.describe ++ ")")
  | .bool m s =>
    line depth "Bool" ++
      (if m.isEmpty then "" else line (depth + 1) "must:" ++ treeList (depth + 2) m) ++
      (if s.isEmpty then "" else line (depth + 1) "should:" ++ treeList (depth + 2) s)
  | .and cs => line depth "And" ++ treeList (depth + 1) cs
  | .nested p q => line depth ("Nested(" ++ p ++ ")") ++ treeAt (depth + 1) q
  | .filtered q f =>
    line depth "Filtered" ++ line (depth + 1) "query:" ++ treeAt (depth + 2) q ++
      line (depth + 1) "filter:" ++ treeAt (depth + 2) f
  | .raw v => line depth ("Raw(" ++ v.compact ++ ")")

/-- The lines of every clause. -/
def treeList (depth : Nat) : List Clause → String
  | [] => ""
  | c :: cs => treeAt depth c ++ treeList depth cs

end

/-- The lines of a clause. -/
def tree (c : Clause) : String := treeAt 0 c

end Clause

end FacetedSearch
