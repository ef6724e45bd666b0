import FacetedSearch.Text.Cut
import FacetedSearch.Url.Percent

/-!
# Form fields

Named values in the query of an address: `name=value` with `&` between the pairs. A blank is written as a plus sign,
and everything but letters, digits and `*-._` is escaped. Reading accepts any text; a pair without an equals sign has
an empty value, and empty pairs are passed over.
-/

namespace FacetedSearch

namespace Form

/-- Whether a byte is written as it is. -/
def isPlain (c : Char) : Bool := c.isAlphanum || ['*', '-', '.', '_'].contains c

/-- A byte as it is written in a name or a value. -/
def encodeByte (b : UInt8) : List Char :=
  let c := Char.ofNat b.toNat
  if b = 0x20 then ['+'] else if isPlain c then [c] else Percent.escape b

/-- A name or a value as it is written. -/
def encodeText (s : String) : List Char := (Utf8.encode s.toList).flatMap encodeByte

/-- A pair as it is written. -/
def encodePair (p : String × String) : List Char := encodeText p.1 ++ '=' :: encodeText p.2

/-- Appends a pair to a query. -/
def append (query : List Char) (p : String × String) : List Char :=
  if query.isEmpty then encodePair p else query ++ '&' :: encodePair p

/-- The query of a list of pairs. -/
def encode (ps : List (String × String)) : List Char := ps.foldl append []

/-- A name or a value from its written form. -/
def decodeText (s : List Char) : String :=
  String.ofList (Utf8.decode (Percent.decode (s.map fun c => if c = '+' then ' ' else c)))

/-- A pair from its written form. -/
def decodePair (s : List Char) : String × String :=
  (decodeText (s.takeWhile (· != '=')), decodeText ((s.dropWhile (· != '=')).drop 1))

/-- The pairs of a query. -/
def decode (query : List Char) : List (String × String) :=
  ((cutAt '&' query).filter fun w => !w.isEmpty).map decodePair

/-- The first value of a name in a query. -/
def get? (query : List Char) (name : String) : Option String :=
  List.lookup name (decode query)

end Form

end FacetedSearch
