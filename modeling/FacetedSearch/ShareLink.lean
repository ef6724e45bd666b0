import FacetedSearch.Document
import FacetedSearch.Json.Writer
import FacetedSearch.Url.Reader

/-!
# Share links

A share link carries a document in the query of an address, under the name `source`. Other named values of the
address are kept. Reading takes a whole link, the query alone, or the document itself.

* `shareLink`: the link for a document;
* `sourceOf`: the text of the document that a link carries.
-/

namespace FacetedSearch

/-- The name under which an address carries a document. -/
def sourceName : String := "source"

/-- Why there is no link, or no document in one. -/
inductive LinkFault
  | invalidUrl (url : String) (fault : UrlFault)
  | noSource
  | source (fault : SourceFault)
  deriving DecidableEq

/-- The fault in words. -/
def LinkFault.message : LinkFault → String
  | .invalidUrl url fault => "invalid url '" ++ url ++ "': " ++ fault.message
  | .noSource => "link has no source parameter"
  | .source fault => fault.message

/-- The text of a document as links carry it. -/
def Document.sharedText (d : Document) (withFacets : Bool) : String := (d.toShared withFacets).compact

/-- The link that carries a document, on top of an address. -/
def shareLink (base : String) (d : Document) (withFacets : Bool) : Except LinkFault Url :=
  match Url.parse base with
  | .error fault => .error (.invalidUrl base fault)
  | .ok u => .ok (u.withPairs (u.pairs.filter (·.1 != sourceName) ++ [(sourceName, d.sharedText withFacets)]))

/-- The query that a text holds: that of an address, or the text itself without the question mark. -/
def queryOfText (text : String) : List Char :=
  match Url.parse text, text.toList with
  | .ok u, _ => u.queryChars
  | .error _, '?' :: s => s
  | .error _, s => s

/-- The text of the document in a link, in a query, or in the document itself. -/
def sourceOf (input : String) : Except LinkFault String :=
  let text := trimmed input
  if text.toList.head? == some '\x7b' then .ok text
  else
    match Form.get? (queryOfText text) sourceName with
    | some s => .ok s
    | none => .error .noSource

/-- The document that a link carries. -/
def documentOf (input : String) : Except LinkFault Document := do
  match Document.parse (← sourceOf input) with
  | .ok d => .ok d
  | .error fault => .error (.source fault)

end FacetedSearch
