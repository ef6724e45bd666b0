import FacetedSearch.Url.Address
import FacetedSearch.Url.Domain

/-!
# Hosts

A host is a name or a network address. In web addresses a name is brought into its ASCII form, and a name that ends in
a number has to be an IPv4 address; elsewhere a name is any text without separators.
-/

namespace FacetedSearch

/-- Why a text is no address. -/
inductive UrlFault
  | noScheme
  | emptyHost
  | invalidPort
  | invalidIpv4
  | invalidIpv6
  | invalidDomain
  | invalidHostCharacter
  deriving DecidableEq

/-- The fault in words. -/
def UrlFault.message : UrlFault → String
  | .noScheme => "relative URL without a base"
  | .emptyHost => "empty host"
  | .invalidPort => "invalid port number"
  | .invalidIpv4 => "invalid IPv4 address"
  | .invalidIpv6 => "invalid IPv6 address"
  | .invalidDomain => "invalid international domain name"
  | .invalidHostCharacter => "invalid domain character"

/-- Where a server is. -/
inductive Host
  | name (text : String)
  | ipv4 (address : Nat)
  | ipv6 (groups : List Nat)
  deriving DecidableEq

namespace Host

/-- The host of an address without one. -/
def empty : Host := .name ""

/-- The text of a host. -/
def text : Host → String
  | .name s => s
  | .ipv4 n => Ipv4.text n
  | .ipv6 ns => "[" ++ Ipv6.text ns ++ "]"

/-- Reads what stands between brackets, of which the opening one has been read. -/
def parseBracketed (s : List Char) : Except UrlFault Host :=
  if s.getLast? == some ']' then
    match Ipv6.parse? s.dropLast with
    | some ns => .ok (.ipv6 ns)
    | none => .error .invalidIpv6
  else .error .invalidIpv6

/-- Reads the host of a web address. -/
def parseDomain : List Char → Except UrlFault Host
  | '[' :: s => parseBracketed s
  | s =>
    match Domain.toAscii? (Utf8.decode (Percent.decode s)) with
    | none => .error .invalidDomain
    | some [] => .error .emptyHost
    | some d =>
      if Ipv4.isMeant d then
        match Ipv4.parse? d with
        | some n => .ok (.ipv4 n)
        | none => .error .invalidIpv4
      else .ok (.name (String.ofList d))

/-- Whether a character separates the parts of an address, or is a blank or null. -/
def isSeparator (c : Char) : Bool :=
  ['\x00', '\t', '\n', '\r', ' ', '#', '/', ':', '<', '>', '?', '@', '[', '\\', ']', '^', '|'].contains c

/-- Reads the host of an address of another kind. -/
def parseOther : List Char → Except UrlFault Host
  | '[' :: s => parseBracketed s
  | s =>
    if s.any isSeparator then .error .invalidHostCharacter
    else .ok (.name (String.ofList (Percent.encode Percent.isControl s)))

end Host

end FacetedSearch
