import FacetedSearch.Url.Form
import FacetedSearch.Url.Host

/-!
# Addresses on the web

The parts of an address, each in its written form, and the text that they make.

* `Url.pairs`: the named values of the query;
* `Url.withPairs`: the same address with other values.
-/

namespace FacetedSearch

/-- The path of an address: names with slashes between them, or a text without structure. -/
inductive UrlPath
  | names (segments : List String)
  | plain (text : String)
  deriving DecidableEq

/-- Who is asked where. -/
structure Authority where
  user : String := ""
  password : String := ""
  host : Host := .empty
  port : Option Nat := none
  deriving DecidableEq

/-- An address. -/
structure Url where
  scheme : String
  authority : Option Authority := none
  path : UrlPath
  query : Option String := none
  fragment : Option String := none
  deriving DecidableEq

/-- The port that is meant when a scheme has none written. -/
def defaultPort? : String → Option Nat
  | "http" | "ws" => some 80
  | "https" | "wss" => some 443
  | "ftp" => some 21
  | _ => none

/-- Whether a scheme is one of the web or of files. -/
def isWebScheme (scheme : String) : Bool := scheme == "file" || (defaultPort? scheme).isSome

/-- The user and the password, each as far as there is one. -/
def Authority.userText (a : Authority) : String :=
  if a.user.isEmpty && a.password.isEmpty then ""
  else if a.password.isEmpty then a.user ++ "@"
  else a.user ++ ":" ++ a.password ++ "@"

/-- The text of an authority. -/
def Authority.text (a : Authority) : String :=
  a.userText ++ a.host.text ++
    match a.port with
    | some n => ":" ++ toString n
    | none => ""

/-- The text of a path. -/
def UrlPath.text : UrlPath → String
  | .names ns => String.join (ns.map ("/" ++ ·))
  | .plain s => s

namespace Url

/-- What stands before a path: an authority, or a guard in front of a path that would be taken for one. -/
def leadText (u : Url) : String :=
  match u.authority, u.path with
  | some a, _ => "//" ++ a.text
  | none, .names ("" :: _ :: _) => "/."
  | none, _ => ""

/-- A part with the mark that begins it, or nothing. -/
def markedText (mark : String) : Option String → String
  | some s => mark ++ s
  | none => ""

/-- What a server is asked for: the path and the query. -/
def target (u : Url) : String := u.path.text ++ markedText "?" u.query

/-- The text of an address. -/
def text (u : Url) : String :=
  u.scheme ++ ":" ++ u.leadText ++ u.target ++ markedText "#" u.fragment

/-- The characters of the query. -/
def queryChars (u : Url) : List Char := (u.query.getD "").toList

/-- The named values of the query. -/
def pairs (u : Url) : List (String × String) := Form.decode u.queryChars

/-- The same address with other named values. -/
def withPairs (u : Url) (ps : List (String × String)) : Url :=
  { u with query := some (String.ofList (Form.encode ps)) }

/-- The same address with one more named value. -/
def addPair (u : Url) (p : String × String) : Url :=
  { u with query := some (String.ofList (Form.append u.queryChars p)) }

end Url

end FacetedSearch
