import FacetedSearch.Text.Hex
import FacetedSearch.Text.Utf8

/-!
# Percent encoding

A byte is written as a percent sign and two upper-case digits. Which characters of a text are written so depends on
where the text stands; characters beyond ASCII always are. Reading undoes every well-formed escape and keeps
everything else.
-/

namespace FacetedSearch

namespace Percent

/-- The escape of a byte. -/
def escape (b : UInt8) : List Char := '%' :: Hex.upperByte b.toNat

/-- Escapes the characters beyond ASCII and those of a given class. -/
def encode (escaped : Char → Bool) (s : List Char) : List Char :=
  s.flatMap fun c => if 0x80 ≤ c.toNat || escaped c then (Utf8.encodeChar c).flatMap escape else [c]

/-- The bytes of a text in which escapes stand for single bytes. -/
def decode : List Char → List UInt8
  | [] => []
  | '%' :: a :: b :: s =>
    match Hex.value? a, Hex.value? b with
    | some m, some n => .ofNat (16 * m + n) :: decode s
    | _, _ => 0x25 :: decode (a :: b :: s)
  | c :: s => Utf8.encodeChar c ++ decode s

/-- Whether a character is a control character of ASCII. -/
def isControl (c : Char) : Bool := c.toNat < 0x20 || c.toNat = 0x7F

/-- What is escaped in a fragment. -/
def inFragment (c : Char) : Bool := isControl c || [' ', '"', '<', '>', '\x60'].contains c

/-- What is escaped in a query. -/
def inQuery (c : Char) : Bool := isControl c || [' ', '"', '#', '<', '>'].contains c

/-- What is escaped in the query of a web address. -/
def inWebQuery (c : Char) : Bool := inQuery c || c = '\''

/-- What is escaped in a path. -/
def inPath (c : Char) : Bool := inQuery c || ['?', '\x60', '\x7b', '\x7d'].contains c

/-- What is escaped in a user name or a password. -/
def inUser (c : Char) : Bool := inPath c || ['/', ':', ';', '=', '@', '[', '\\', ']', '^', '|'].contains c

end Percent

end FacetedSearch
