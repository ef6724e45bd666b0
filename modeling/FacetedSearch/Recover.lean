import FacetedSearch.Document
import FacetedSearch.Selection.Command

/-!
# From document to commands

`Config.recover` reads a document that was made elsewhere and gives the commands that select the same records.
Filters that every search carries are implied and skipped, and so is everything that is no selection. Commands
about the page come last, since changes of the filters go back to the start.

* `recoverList_eq_flatMap`: clauses that all have to hold are walked one after the other.
-/

namespace FacetedSearch

namespace Config

/-- The filters that every search carries, as clauses. -/
def filterClauses (c : Config) : List Clause :=
  c.filters.map fun (_, v) => Clause.ofJson v

/-- Whether a clause is one of the filters that every search carries. -/
def isImplied (c : Config) (clause : Clause) : Bool :=
  c.filterClauses.any (·.same clause)

/-- The command that selects a member of an OR group. -/
def recoverMember : Clause → Option Command
  | .term f v => some (.addSelection f (.ofText v) (some .or))
  | .missing f => some (.addSelection f .undefined (some .or))
  | _ => none

/-- The commands of a free-text query. -/
def recoverText (q : TextQuery) : List Command :=
  .setFreeText q.text :: (if q.field.isSome then [.setSearchField q.field] else [])

mutual

/-- The commands of a clause that has to hold. -/
def recoverClause (c : Config) (q : Clause) : List Command :=
  if c.isImplied q then []
  else
    match q with
    | .matchAll => []
    | .term f v => [.addSelection f (.ofText v) (some .and)]
    | .missing f => [.addSelection f .undefined (some .and)]
    | .range f low high =>
      match c.facetIndex? f with
      | some i => [.setRange i low high]
      | none => []
    | .text t => recoverText t
    | .bool m s => recoverList c m ++ s.filterMap recoverMember
    | .and qs => recoverList c qs
    | .nested _ q => recoverClause c q
    | .filtered q f => recoverClause c q ++ recoverClause c f
    | .raw _ => []

/-- The commands of clauses that all have to hold. -/
def recoverList (c : Config) : List Clause → List Command
  | [] => []
  | q :: qs => recoverClause c q ++ recoverList c qs

end

theorem recoverList_eq_flatMap (c : Config) (qs : List Clause) : c.recoverList qs = qs.flatMap c.recoverClause := by
  induction qs with
  | nil => rfl
  | cons q qs ih => rw [recoverList, ih, List.flatMap_cons]

/-- The command that restores the sort keys, if there are any. -/
def recoverSort : List Json → List Command
  | [] => []
  | vs => [.setSort (vs.filterMap SortKey.ofJson?)]

/-- The commands that restore what a document selects. -/
def recover (c : Config) (d : Document) : List Command :=
  c.recoverClause d.query ++ recoverSort d.sort ++ (d.size.map .setPageSize).toList ++
    (d.offset.map .setPage).toList

/-- The commands that restore what a JSON document selects; only objects are documents. -/
def recoverJson (c : Config) (v : Json) : List Command :=
  match Document.ofJson v with
  | .ok d => c.recover d
  | .error _ => []

end Config

end FacetedSearch
