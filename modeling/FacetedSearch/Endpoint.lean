import FacetedSearch.Json.Writer
import FacetedSearch.Response
import FacetedSearch.ShareLink

/-!
# The backend

An endpoint is the address of the backend and the way in which documents are sent there: in the query of the address
or as the body of the request.

* `Endpoint.ofSettings`: the endpoint that settings describe;
* `readReply`: what the answer of a backend means.
-/

namespace FacetedSearch

/-- Why a search failed. -/
inductive SearchFault
  | noBackend
  | invalidUrl (url : String) (fault : UrlFault)
  | refused (status : Nat) (body : String)
  | undecodable
  deriving DecidableEq

/-- The fault in words. -/
def SearchFault.message : SearchFault → String
  | .noBackend => "no backend url configured; set [backend] url in .facet.toml"
  | .invalidUrl url fault => "invalid backend url '" ++ url ++ "': " ++ fault.message
  | .refused status body => "backend returned " ++ toString status ++ ": " ++ body
  | .undecodable => "failed to decode search response"

/-- The outcome of a search. -/
abbrev Outcome := Except SearchFault Response

/-- Where and how documents are sent. -/
structure Endpoint where
  url : Url
  method : Method
  timeout : Nat
  deriving DecidableEq

/-- A document on its way to the backend, and for how many seconds an answer is waited for. -/
structure Request where
  method : Method
  url : Url
  body : String
  timeout : Nat
  deriving DecidableEq

namespace Endpoint

/-- The endpoint that settings describe. -/
def ofSettings (b : BackendSettings) : Except SearchFault Endpoint :=
  match b.url with
  | none => .error .noBackend
  | some text =>
    match Url.parse text with
    | .ok url => .ok ⟨url, b.method, b.timeout⟩
    | .error fault => .error (.invalidUrl text fault)

/-- The request that carries a document. -/
def request (e : Endpoint) (d : Document) : Request :=
  match e.method with
  | .get => ⟨.get, e.url.addPair (sourceName, d.toJson.compact), "", e.timeout⟩
  | .post => ⟨.post, e.url, d.toJson.compact, e.timeout⟩

end Endpoint

/-- Whether answers with a status have no body, whatever follows them. -/
def isBodiless (status : Nat) : Bool := status < 200 || status = 204 || status = 304

/-- What the status and the body of an answer mean. -/
def readReply (status : Nat) (sent : String) : Outcome :=
  let body := if isBodiless status then "" else sent
  if 200 ≤ status && status < 300 then
    match Response.parse? body with
    | some r => .ok r
    | none => .error .undecodable
  else .error (.refused status body)

end FacetedSearch
