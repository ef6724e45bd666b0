import FacetedSearch.Text.CodeRange
import FacetedSearch.Text.Cut
import FacetedSearch.Text.Hex

/-!
# Tables of code points

A table is written in rows of records with blanks between them, and a record as a few hexadecimal numbers with dots
between them. `3A.3C` is the range of the code points 3A, 3B and 3C.
-/

namespace FacetedSearch

namespace CodeTable

/-- The numbers of a record. -/
def numbers (record : List Char) : List Nat := (cutAt '.' record).filterMap Hex.number?

/-- The records of a table. -/
def records (rows : List String) : List (List Nat) :=
  rows.flatMap fun row => (cutAt ' ' row.toList).map numbers

/-- The ranges of a table whose records are ranges. -/
def ranges (rows : List String) : List CodeRange :=
  (records rows).filterMap fun
    | [low, high] => some (low, high)
    | _ => none

/-- The ranges of a table whose records are ranges with a mark. -/
def marked (rows : List String) : List (CodeRange × Nat) :=
  (records rows).filterMap fun
    | [low, high, mark] => some ((low, high), mark)
    | _ => none

/-- The mark of a code point; `0` outside of all ranges. -/
def mark (table : List (CodeRange × Nat)) (n : Nat) : Nat :=
  ((table.find? fun r => r.1.1 ≤ n && n ≤ r.1.2).map Prod.snd).getD 0

end CodeTable

end FacetedSearch
