import FacetedSearch.Selection.State

/-!
# Commands

Every change of a state is a command. Selecting a node of a hierarchy selects all values below it. `Config.apply`
carries a command out and says whether the state changed.
-/

namespace FacetedSearch

/-- A change of the selection state. -/
inductive Command
  | addSelection (key : String) (value : Choice) (logic : Option Logic)
  | removeSelection (key : String) (value : Choice)
  | toggleKeyLogic (key : String)
  | setRange (facet : Nat) (low high : String)
  | clearRange (facet : Nat)
  | setFreeText (text : String)
  | setSearchField (field : Option String)
  | setSort (sort : List SortKey)
  | setPage (offset : Nat)
  | setPageSize (size : Nat)
  | nextPage
  | previousPage
  | cycleFacetOrder (facet : Nat)
  | selectNode (facet : Nat) (path : List String)
  | deselectNode (facet : Nat) (path : List String)
  | clear
  deriving DecidableEq

/-- Whether a command can change which records match. -/
def Command.changesSelection : Command → Bool
  | .setPage _ | .setPageSize _ | .nextPage | .previousPage | .cycleFacetOrder _ | .setSort _ => false
  | _ => true

namespace Config

/-- The logic of a new selection: the requested one, else that of the key, else that of the facet. -/
def resolveLogic (c : Config) (s : SearchState) (key : String) (requested : Option Logic) : Logic :=
  (requested <|> s.keyLogic key <|> (c.facet? key).map (·.operator)).getD .and

/-- The field of a facet and the values below a node of its hierarchy. -/
def nodeLeaves? (c : Config) (facet : Nat) (path : List String) : Option (String × List String) := do
  let f ← c.facets[facet]?
  let ts ← c.hierarchy? f.field
  let t ← ValueTree.find? ts path
  pure (f.field, t.leaves)

/-- Carries out one change for every value of a list; says whether any of them changed the state. -/
def forEachLeaf (change : SearchState → String → SearchState × Bool) (s : SearchState) (leaves : List String) :
    SearchState × Bool :=
  leaves.foldl (fun (s, changed) leaf =>
    let (s', now) := change s leaf
    (s', changed || now)) (s, false)

/-- Carries out a command. The page behind the present one is taken to start at a 64-bit number. -/
def apply (c : Config) (s : SearchState) : Command → SearchState × Bool
  | .addSelection key v l => s.select key v (c.resolveLogic s key l)
  | .removeSelection key v => s.deselect key v
  | .toggleKeyLogic key => s.toggleLogic key
  | .setRange facet low high => (s.setRange ⟨facet, low, high⟩, true)
  | .clearRange facet => s.clearRange facet
  | .setFreeText text => s.setFreeText text
  | .setSearchField field => s.setSearchField field
  | .setSort sort => s.setSort sort
  | .setPage offset => s.setOffset offset
  | .setPageSize size => s.setSize size
  | .nextPage => s.setOffset (s.page.offset + s.page.size)
  | .previousPage => s.setOffset (s.page.offset - s.page.size)
  | .cycleFacetOrder _ => (s, false)
  | .selectNode facet path =>
    match c.nodeLeaves? facet path with
    | some (key, leaves) =>
      let l := c.resolveLogic s key none
      forEachLeaf (fun s leaf => s.select key (.ofText leaf) l) s leaves
    | none => (s, false)
  | .deselectNode facet path =>
    match c.nodeLeaves? facet path with
    | some (key, leaves) => forEachLeaf (fun s leaf => s.deselect key (.ofText leaf)) s leaves
    | none => (s, false)
  | .clear => (s.clear, !s.isEmpty || s.page.offset != 0)

/-- Carries out commands one after the other. -/
def run (c : Config) (s : SearchState) (cmds : List Command) : SearchState :=
  cmds.foldl (fun s cmd => (c.apply s cmd).1) s

/-- The state in which a session starts. -/
def startState (c : Config) : SearchState := .start c.paging

end Config

end FacetedSearch
