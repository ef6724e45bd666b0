import FacetedSearch.Json.Basic
import FacetedSearch.Logic

/-!
# Clauses

A clause is the query half of a search document: it says which records match. Clauses that the library does not
understand are kept as raw JSON.

* `Clause.all`: a conjunction, flattened by one level, and a single member without a wrapper;
* `Clause.same`: equality of clauses, where raw values are compared by `Json.same`.
-/

namespace FacetedSearch

/-- A free-text query: the text, the field it is restricted to, and how its words combine. -/
structure TextQuery where
  text : String
  field : Option String := none
  operator : Option Logic := none
  deriving DecidableEq

/-- A condition on records. -/
inductive Clause
  | matchAll
  | term (field value : String)
  | missing (field : String)
  | range (field low high : String)
  | text (q : TextQuery)
  | bool (must should : List Clause)
  | and (members : List Clause)
  | nested (path : String) (query : Clause)
  | filtered (query filter : Clause)
  | raw (v : Json)

instance : Inhabited Clause := ⟨.matchAll⟩

namespace Clause

/-- All of the clauses must hold. -/
def must (cs : List Clause) : Clause := .bool cs []

/-- One of the clauses must hold. -/
def should (cs : List Clause) : Clause := .bool [] cs

/-- The members of a conjunction, or the clause itself. -/
def conjuncts : Clause → List Clause
  | .and cs => cs
  | c => [c]

/-- The conjunction of clauses: conjunctions among them are flattened, and a single clause stands alone. -/
def all (cs : List Clause) : Clause :=
  match cs.flatMap conjuncts with
  | [c] => c
  | ds => .and ds

mutual

/-- Equal clauses. -/
def same : Clause → Clause → Bool
  | .matchAll, .matchAll => true
  | .term f v, .term g w => f == g && v == w
  | .missing f, .missing g => f == g
  | .range f a b, .range g c d => f == g && a == c && b == d
  | .text q, .text r => q == r
  | .bool m s, .bool m' s' => sameList m m' && sameList s s'
  | .and cs, .and ds => sameList cs ds
  | .nested p q, .nested p' q' => p == p' && same q q'
  | .filtered q f, .filtered q' f' => same q q' && same f f'
  | .raw v, .raw w => v.same w
  | _, _ => false

/-- Equal clauses at equal positions. -/
def sameList : List Clause → List Clause → Bool
  | [], [] => true
  | c :: cs, d :: ds => same c d && sameList cs ds
  | _, _ => false

end

end Clause

end FacetedSearch
