/-!
# Hexadecimal digits

Digits are read in either case; bytes are written with two digits of one case.
-/

namespace FacetedSearch

namespace Hex

/-- The value of a hexadecimal digit. -/
def value? (c : Char) : Option Nat :=
  if c.isDigit then some (c.toNat - '0'.toNat)
  else if 'a' ≤ c && c ≤ 'f' then some (c.toNat - 'a'.toNat + 10)
  else if 'A' ≤ c && c ≤ 'F' then some (c.toNat - 'A'.toNat + 10)
  else none

/-- The number written by hexadecimal digits. -/
def number? (ds : List Char) : Option Nat :=
  ds.foldlM (fun n d => (value? d).map (16 * n + ·)) 0

/-- The lower-case digits of a number below 256. -/
def lowerByte (n : Nat) : List Char := [Nat.digitChar (n / 16), Nat.digitChar (n % 16)]

/-- The upper-case digits of a number below 256. -/
def upperByte (n : Nat) : List Char := (lowerByte n).map Char.toUpper

end Hex

end FacetedSearch
