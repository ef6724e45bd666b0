import FacetedSearch.Config.Layer
import FacetedSearch.Text.Path

/-!
# Merging layers

Files are given with the highest precedence first. Of every setting the first file that has it decides, the facets
come as a whole from the first file that lists any, tables are merged key by key, and nested prefixes are gathered
from all files.
-/

namespace FacetedSearch

/-- A settings file that has been read. -/
structure Source where
  path : String
  layer : Layer

/-- Why a configuration cannot be used. -/
inductive ConfigFault
  | unreadable (path : String)
  | unparsable (path : String)
  | noField (index : Nat)
  | repeatedFacet (field : String)
  | unknownFacet (field : String)
  | hierarchy (field : String) (fault : HierarchyFault)

/-- The fault in words, without the reasons of the system and of the parser. -/
def ConfigFault.message : ConfigFault → String
  | .unreadable path => "failed to read config file " ++ path
  | .unparsable path => "failed to parse config file " ++ path
  | .noField index => "facet #" ++ toString index ++ " has no field"
  | .repeatedFacet field => "facet field defined twice: " ++ field
  | .unknownFacet field => "hierarchy declared for unknown facet: " ++ field
  | .hierarchy field (.shape s) => "invalid hierarchy for " ++ field ++ ": " ++ s.message
  | .hierarchy field (.repeatedLeaf l) => "hierarchy for " ++ field ++ " repeats leaf '" ++ l ++ "'"

/-- What the first layer says that says anything. -/
def firstSaid {α β : Type} (layers : List β) (get : β → Option α) : Option α := layers.findSome? get

/-- What the first layer says, or else the default. -/
def firstSaidOr {α β : Type} (layers : List β) (get : β → Option α) (default : α) : α :=
  (firstSaid layers get).getD default

/-- The backend settings of lower layers, with what this one says in their place. -/
def BackendLayer.over (l : BackendLayer) (s : BackendSettings) : BackendSettings where
  url := l.url.or s.url
  method := l.method.getD s.method
  timeout := l.timeout.getD s.timeout

/-- The search settings of lower layers, with what this one says in their place. -/
def SearchLayer.over (l : SearchLayer) (s : SearchSettings) : SearchSettings where
  operator := l.operator.getD s.operator
  fuzziness := l.fuzziness.getD s.fuzziness
  delay := l.delay.getD s.delay
  addUndefined := l.addUndefined.getD s.addUndefined
  pruneZero := l.pruneZero.getD s.pruneZero
  shareFacets := l.shareFacets.getD s.shareFacets

/-- The page of lower layers, with what this one says in its place. -/
def PageLayer.over (l : PageLayer) (p : Page) : Page where
  offset := l.offset.getD p.offset
  size := l.size.getD p.size

/-- The result settings of lower layers, with what this one says in their place. -/
def ResultLayer.over (l : ResultLayer) (s : ResultSettings) : ResultSettings where
  fields := l.fields.or s.fields
  partialFields := (l.partialFields.map .obj).or s.partialFields
  sortOptions := l.sortOptions.getD s.sortOptions

namespace Config

/-- The backend settings of all layers, put over the defaults one after the other, the lowest layer first. -/
def mergeBackend (ls : List Layer) : BackendSettings := ls.foldr (fun l s => l.backend.over s) {}

/-- The search settings of all layers. -/
def mergeSearch (ls : List Layer) : SearchSettings := ls.foldr (fun l s => l.search.over s) {}

/-- The first page of all layers. -/
def mergePaging (ls : List Layer) : Page := ls.foldr (fun l p => l.paging.over p) {}

/-- The result settings of all layers. -/
def mergeResults (ls : List Layer) : ResultSettings := ls.foldr (fun l s => l.results.over s) {}

/-- The facet that a layer describes, at some place in its list. -/
def resolveFacet (index : Nat) (l : FacetLayer) : Except ConfigFault Facet :=
  let field := trimmed (l.field.getD "")
  if field.isEmpty then .error (.noField index)
  else .ok {
    field
    display := l.display
    order := l.order.getD .term
    size := l.size
    minSize := l.minSize
    operator := l.operator.getD .and }

/-- The facets that a list of layers describes, after the fields that have been seen. -/
def resolveFacets (seen : List String) (index : Nat) : List FacetLayer → Except ConfigFault (List Facet)
  | [] => .ok []
  | l :: ls => do
    let f ← resolveFacet index l
    if seen.contains f.field then .error (.repeatedFacet f.field)
    else
      let fs ← resolveFacets (f.field :: seen) (index + 1) ls
      pure (f :: fs)

/-- The facets of the first layer that lists any. -/
def mergeFacets (ls : List Layer) : Except ConfigFault (List Facet) :=
  resolveFacets [] 0 (firstSaidOr ls (·.facets) [])

/-- Adds the texts that are not there yet. -/
def addNew (seen new : List String) : List String :=
  new.foldl (fun acc p => if acc.contains p then acc else acc ++ [p]) seen

/-- The nested prefixes of all layers. -/
def mergeNested (ls : List Layer) : List String :=
  addNew [] (ls.flatMap fun l => l.nested.getD [])

/-- The entries of all layers; of a key, the first entry counts. -/
def mergeEntries {α : Type} (ls : List Layer) (get : Layer → Entries α) : Entries α :=
  ls.foldl (fun acc l => Entries.addMissing acc (get l)) []

/-- Reads the hierarchies, each of which has to belong to a facet. -/
def readHierarchies (facets : List Facet) : Entries Toml → Except ConfigFault (Entries (List ValueTree))
  | [] => .ok []
  | (field, v) :: es =>
    if facets.any (·.field == field) then
      match readHierarchy v with
      | .error fault => .error (.hierarchy field fault)
      | .ok ts => do
        let rest ← readHierarchies facets es
        pure ((field, ts) :: rest)
    else .error (.unknownFacet field)

/-- Merges files, the one with the highest precedence first. -/
def merge (sources : List Source) : Except ConfigFault Config := do
  let ls := sources.map (·.layer)
  let facets ← mergeFacets ls
  let hierarchies ← readHierarchies facets (mergeEntries ls (·.hierarchies))
  pure {
    backend := mergeBackend ls
    search := mergeSearch ls
    paging := mergePaging ls
    results := mergeResults ls
    facets
    nested := mergeNested ls
    filters := mergeEntries ls (·.filters)
    hierarchies
    extraFacets := mergeEntries ls (·.extraFacets)
    root := sources.head?.bind fun s => Path.parent? s.path }

/-- Reads one text as a file. -/
def readSource (path text : String) : Except ConfigFault Source :=
  match Layer.parse text with
  | some layer => .ok ⟨path, layer⟩
  | none => .error (.unparsable path)

/-- The configuration of a single text, which belongs to no directory. -/
def ofText (text : String) : Except ConfigFault Config := do
  let source ← readSource "<inline>" text
  let c ← merge [source]
  pure { c with root := none }

end Config

end FacetedSearch
