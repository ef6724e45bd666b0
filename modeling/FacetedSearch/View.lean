import FacetedSearch.Response

/-!
# Facet views

A view is what a facet shows: a sorted list of values, or the nodes of its hierarchy with counts added up from the
leaves. Values that were shown before stay in the list with a count of zero, as long as the caller passes the
previous views. Counts are unsigned 64-bit integers, and so are the sums of a hierarchy as long as the counts of its
leaves add up to one; larger sums are not considered.

* `CountedTree.flatten`: the nodes of a tree, depth first;
* `Config.aggregate`: the views of all facets.
-/

namespace FacetedSearch

/-- A value of a facet, its count, and whether it is shown. -/
structure FacetValue where
  value : String
  count : Nat
  visible : Bool
  deriving DecidableEq

/-- A node of a hierarchy below the labels of its path. -/
structure TreeRow where
  label : String
  count : Nat
  above : List String
  leaf : Bool
  visible : Bool
  deriving DecidableEq

/-- The labels that lead to a node, its own included. -/
def TreeRow.path (r : TreeRow) : List String := r.above ++ [r.label]

/-- The entries of a view. -/
inductive FacetEntries
  | flat (values : List FacetValue)
  | tree (rows : List TreeRow)
  deriving DecidableEq

/-- What a facet shows. -/
structure FacetView where
  field : String
  label : String
  order : ValueOrder
  logic : Logic
  entries : FacetEntries
  deriving DecidableEq

/-- The values of a list; a tree has none. -/
def FacetView.values (v : FacetView) : List FacetValue :=
  match v.entries with
  | .flat values => values
  | .tree _ => []

/-- A node of a hierarchy with its count. -/
inductive CountedTree
  | node (label : String) (count : Nat) (children : List CountedTree)

instance : Inhabited CountedTree := ⟨.node "" 0 []⟩

/-- The count of a node. -/
def CountedTree.count : CountedTree → Nat
  | .node _ n _ => n

/-- The label of a node. -/
def CountedTree.label : CountedTree → String
  | .node l _ _ => l

/-- The nodes right below a node. -/
def CountedTree.children : CountedTree → List CountedTree
  | .node _ _ cs => cs

/-- The count of a value; of several counts the last one is used. -/
def lastCount (counts : List (String × Nat)) (value : String) : Nat :=
  ((counts.reverse.find? (·.1 == value)).map (·.2)).getD 0

mutual

/-- Counts a node: a leaf by its label, a branch by the sum of its children, which is taken to be a 64-bit number. -/
def ValueTree.rollup (counts : List (String × Nat)) : ValueTree → CountedTree
  | .node l [] => .node l (lastCount counts l) []
  | .node l (c :: cs) =>
    let ds := ValueTree.rollupList counts (c :: cs)
    .node l ((ds.map CountedTree.count).sum) ds

/-- Counts several nodes. -/
def ValueTree.rollupList (counts : List (String × Nat)) : List ValueTree → List CountedTree
  | [] => []
  | t :: ts => ValueTree.rollup counts t :: ValueTree.rollupList counts ts

end

namespace ValueOrder

/-- Whether an item may stand before another one. -/
def before (o : ValueOrder) (a b : String × Nat) : Bool :=
  match o with
  | .term => a.1 ≤ b.1
  | .reverseTerm => b.1 ≤ a.1
  | .count => a.2 ≤ b.2
  | .reverseCount => b.2 ≤ a.2

/-- Sorts values; equal ones keep their order. -/
def sortValues (o : ValueOrder) (vs : List FacetValue) : List FacetValue :=
  vs.mergeSort fun a b => o.before (a.value, a.count) (b.value, b.count)

/-- Sorts the rows of siblings, each with the rows below it: by term in the configured order or its reverse, by
count with equal ones in the configured order. -/
def sortSiblings (o : ValueOrder) (groups : List (TreeRow × List TreeRow)) : List (TreeRow × List TreeRow) :=
  match o with
  | .term => groups
  | .reverseTerm => groups.reverse
  | .count | .reverseCount =>
    groups.mergeSort fun a b => o.before (a.1.label, a.1.count) (b.1.label, b.1.count)

end ValueOrder

/-- The rows of siblings in order, each followed by the rows below it. -/
def joinRows (o : ValueOrder) (groups : List (TreeRow × List TreeRow)) : List TreeRow :=
  (o.sortSiblings groups).flatMap fun (r, rs) => r :: rs

namespace CountedTree

mutual

/-- The row of a node and the rows below it. -/
def rowsOf (o : ValueOrder) (hideZero : Bool) (above : List String) : CountedTree → TreeRow × List TreeRow
  | .node l n cs =>
    (⟨l, n, above, cs.isEmpty, !(hideZero && n == 0)⟩, joinRows o (groupsOf o hideZero (above ++ [l]) cs))

/-- The rows of siblings, in configured order. -/
def groupsOf (o : ValueOrder) (hideZero : Bool) (above : List String) :
    List CountedTree → List (TreeRow × List TreeRow)
  | [] => []
  | t :: ts => rowsOf o hideZero above t :: groupsOf o hideZero above ts

end

/-- The nodes of a tree, depth first; nodes that count nothing may be hidden. -/
def flatten (o : ValueOrder) (hideZero : Bool) (ts : List CountedTree) : List TreeRow :=
  joinRows o (groupsOf o hideZero [] ts)

end CountedTree

/-- The visible values that are shown at once, and how many more there are. -/
def shownValues (vs : List FacetValue) (minSize : Option Nat) (expanded : Bool) : List FacetValue × Nat :=
  let visible := vs.filter (·.visible)
  match minSize with
  | some limit =>
    if !expanded && limit < visible.length then (visible.take limit, visible.length - limit) else (visible, 0)
  | none => (visible, 0)

namespace Config

/-- The values of a flat facet before sorting: those counted, the one for missing values, and those shown before. -/
def gatherValues (c : Config) (counts : FacetCounts) (previous : List FacetValue) : List (String × Nat) :=
  let counted := counts.terms
  let withMissing :=
    if c.search.addUndefined && 0 < counts.missing && !counted.any (·.1 == undefinedText) then
      counted ++ [(undefinedText, counts.missing)]
    else counted
  previous.foldl (fun acc old => if acc.any (·.1 == old.value) then acc else acc ++ [(old.value, 0)]) withMissing

/-- The values of a flat facet. -/
def flatValues (c : Config) (counts : FacetCounts) (previous : List FacetValue) (o : ValueOrder)
    (hideZero : Bool) : List FacetValue :=
  o.sortValues ((c.gatherValues counts previous).map fun (v, n) => ⟨v, n, !(hideZero && n == 0)⟩)

/-- The view of a facet. -/
def view (c : Config) (f : Facet) (counts : FacetCounts) (l : Logic) (previous : Option FacetView) : FacetView :=
  let hideZero := l == .and && c.search.pruneZero
  let entries : FacetEntries := match c.hierarchy? f.field with
    | some ts => .tree (CountedTree.flatten f.order hideZero (ValueTree.rollupList counts.terms ts))
    | none =>
      let prior := (previous.map FacetView.values).getD []
      .flat (c.flatValues counts prior f.order hideZero)
  ⟨f.field, f.label, f.order, l, entries⟩

/-- The views of all facets. -/
def aggregate (c : Config) (counts : Entries FacetCounts) (s : SearchState) (previous : List FacetView) :
    List FacetView :=
  c.facets.map fun f =>
    c.view f ((counts.get? f.field).getD {}) ((s.keyLogic f.field).getD f.operator)
      (previous.find? (·.field == f.field))

end Config

end FacetedSearch
