import FacetedSearch.Toml.Value

/-!
# Hierarchies over facet values

A hierarchy groups the values of a facet into a tree. Leaves stand for values, and the nodes above them are
labels only.

* `ValueTree.find?`: the node that a path of labels leads to;
* `ValueTree.leaves`: the values below a node, in order;
* `readHierarchy`: a hierarchy from its table; no value may be a leaf twice.
-/

namespace FacetedSearch

/-- A label and the nodes below it. -/
inductive ValueTree
  | node (label : String) (children : List ValueTree)

instance : Inhabited ValueTree := ⟨.node "" []⟩

namespace ValueTree

/-- The label of a node; of a leaf, the value itself. -/
def label : ValueTree → String
  | .node l _ => l

/-- The nodes right below a node. -/
def children : ValueTree → List ValueTree
  | .node _ cs => cs

/-- Whether nothing stands below a node. -/
def isLeaf (t : ValueTree) : Bool := t.children.isEmpty

/-- The node with a single value. -/
def leaf (value : String) : ValueTree := .node value []

mutual

/-- The values at or below a node, depth first. -/
def leaves : ValueTree → List String
  | .node l [] => [l]
  | .node _ (c :: cs) => leavesList (c :: cs)

/-- The values of several nodes, in order. -/
def leavesList : List ValueTree → List String
  | [] => []
  | t :: ts => leaves t ++ leavesList ts

end

/-- The node that a path of labels leads to; of nodes with one label, the first counts. -/
def find? : List ValueTree → List String → Option ValueTree
  | _, [] => none
  | ts, [l] => ts.find? (·.label == l)
  | ts, l :: m :: ls =>
    match ts.find? (·.label == l) with
    | some t => find? t.children (m :: ls)
    | none => none

end ValueTree

/-- What a hierarchy cannot hold: something else than a table, an entry of an unusable kind under a label, or such
an item of an array. -/
inductive HierarchyShape
  | noTable (found : String)
  | entry (label kind : String)
  | item (kind : String)
  deriving DecidableEq

/-- The fault in words. -/
def HierarchyShape.message : HierarchyShape → String
  | .noTable found => "expected a table, found a " ++ found
  | .entry label kind => "'" ++ label ++ "' has a " ++ kind ++ " value"
  | .item kind => "array element is a " ++ kind

/-- Why a table is no hierarchy. -/
inductive HierarchyFault
  | shape (s : HierarchyShape)
  | repeatedLeaf (label : String)
  deriving DecidableEq

mutual

/-- Reads the nodes of a table: every key is a label. -/
def readNodes : List (String × Toml) → Except HierarchyShape (List ValueTree)
  | [] => .ok []
  | (label, v) :: es => do
    let cs ← readChildren label v
    let ts ← readNodes es
    pure (.node label cs :: ts)

/-- Reads what stands below a label: a table, an array, or a single value. -/
def readChildren (label : String) : Toml → Except HierarchyShape (List ValueTree)
  | .table es => readNodes es
  | .arr vs => readArray vs
  | .str s => .ok [.leaf s]
  | v => .error (.entry label v.kind)

/-- Reads the nodes of an array: its strings are values and its tables add their nodes. -/
def readArray : List Toml → Except HierarchyShape (List ValueTree)
  | [] => .ok []
  | .str s :: vs => do
    let ts ← readArray vs
    pure (.leaf s :: ts)
  | .table es :: vs => do
    let ts ← readNodes es
    let us ← readArray vs
    pure (ts ++ us)
  | v :: _ => .error (.item v.kind)

end

/-- The first of some labels that has come before. -/
def firstRepeated : List String → List String → Option String
  | _, [] => none
  | seen, l :: ls => if seen.contains l then some l else firstRepeated (l :: seen) ls

/-- Reads a hierarchy from its value. -/
def readHierarchy : Toml → Except HierarchyFault (List ValueTree)
  | .table es =>
    match readNodes es with
    | .error s => .error (.shape s)
    | .ok ts =>
      match firstRepeated [] (ValueTree.leavesList ts) with
      | some l => .error (.repeatedLeaf l)
      | none => .ok ts
  | v => .error (.shape (.noTable v.kind))

end FacetedSearch
