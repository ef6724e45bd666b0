import FacetedSearch.Endpoint

/-!
# Requests and answers as bytes

A request is sent as a line with the method and the target, lines that say who is asked and what the body is, an empty
line, and the body. An answer has the same form, with the status in its first line; it ends where the backend closes
the connection, or before that if it says how long its body is.

* `Request.wireText`: the text of a request;
* `readAnswer?`: the status and the body of an answer.
-/

namespace FacetedSearch

/-- The line break between the lines of a head. -/
def lineEnd : String := "\r\n"

/-- The target of an address as it is sent. -/
def Url.sentTarget (u : Url) : String := if u.target.startsWith "/" then u.target else "/" ++ u.target

/-- The lines of a request before its body. -/
def Request.headLines (q : Request) : List String :=
  let host := match q.url.authority with
    | some a => { a with user := "", password := "" : Authority }.text
    | none => ""
  let lead := [String.ofList (q.method.name.toList.map Char.toUpper) ++ " " ++ q.url.sentTarget ++ " HTTP/1.0",
    "host: " ++ host, "accept: */*"]
  match q.method with
  | .get => lead
  | .post => lead ++ ["content-type: application/json", "content-length: " ++ toString q.body.utf8ByteSize]

/-- The text of a request. -/
def Request.wireText (q : Request) : String :=
  String.join (q.headLines.map (· ++ lineEnd)) ++ lineEnd ++ q.body

/-- Cuts bytes at the first empty line. -/
def cutHead? : List UInt8 → Option (List UInt8 × List UInt8)
  | 13 :: 10 :: 13 :: 10 :: s => some ([], s)
  | b :: s => (cutHead? s).map fun p => (b :: p.1, p.2)
  | [] => none

/-- The value of a line of a head, by its name in lower case. -/
def headValue? (name : String) (lines : List (List Char)) : Option (List Char) :=
  lines.findSome? fun line =>
    let key := line.takeWhile (· != ':')
    if key.map Char.toLower = name.toList then some ((line.drop (key.length + 1)).filter (· != ' ')) else none

/-- The status and the body of an answer. -/
def readAnswer? (bytes : List UInt8) : Option (Nat × String) := do
  let (head, rest) ← cutHead? bytes
  let lines := cutAt '\n' ((Utf8.decode head).filter (· != '\r'))
  let status ← (cutAt ' ' (lines.headD []))[1]?
  let status ← (String.ofList status).toNat?
  let size := ((headValue? "content-length" lines).bind fun s => (String.ofList s).toNat?).getD rest.length
  some (status, String.ofList (Utf8.decode (rest.take size)))

end FacetedSearch
