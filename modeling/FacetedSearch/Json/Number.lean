import FacetedSearch.Json.Basic
import FacetedSearch.Text.Word64

/-!
# Reading JSON numbers

An integer literal within the signed or unsigned 64-bit range is an integer. Any other number is a double: its
digits are gathered in a 64-bit significand, later digits are dropped, and the significand is scaled by a power
of ten in floating point. A number beyond the range of doubles is refused, and so is a leading zero.
-/

namespace FacetedSearch

namespace JsonNumber

/-- The value of a decimal digit. -/
def digitValue (c : Char) : Nat := c.toNat - '0'.toNat

/-- The number written by decimal digits. -/
def digitsValue (ds : List Char) : Nat :=
  ds.foldl (fun n d => 10 * n + digitValue d) 0

/-- Appends digits to a significand as long as it stays below the limit; also counts the digits that were used. -/
def gather : Nat → List Char → Nat × Nat
  | n, [] => (n, 0)
  | n, d :: ds =>
    let n' := 10 * n + digitValue d
    if n' < wordLimit then
      let (m, used) := gather n' ds
      (m, used + 1)
    else (n, 0)

/-- Divides by `10 ^ e`, in steps of at most 308 decimal places. -/
def scaleDown (x : Float) (e : Nat) : Float :=
  if e ≤ 308 then x / Float.ofScientific 1 false e
  else if x == 0 then x
  else scaleDown (x / Float.ofScientific 1 false 308) (e - 308)
termination_by e

/-- `significand * 10 ^ e`, or nothing beyond the range of doubles. -/
def scaled (significand : Nat) (e : Int) : Option Float :=
  let x := significand.toUInt64.toFloat
  if e < 0 then some (scaleDown x e.natAbs)
  else if 308 < e then if significand = 0 then some x else none
  else
    let y := x * Float.ofScientific 1 false e.toNat
    if y.isInf then none else some y

/-- A number as it is written: sign, whole digits, digits after a point, and signed exponent digits. -/
structure Literal where
  negative : Bool
  whole : List Char
  fraction : Option (List Char)
  exponent : Option (Bool × List Char)

namespace Literal

/-- Exponents above this are not added up any more. -/
def exponentLimit : Nat := 0x7FFFFFFF

/-- The magnitude of a literal as a double. -/
def magnitude (l : Literal) : Option Float :=
  let (n, usedWhole) := gather 0 l.whole
  let (significand, usedFraction) := gather n (l.fraction.getD [])
  let place : Int := (l.whole.length : Int) - usedWhole - usedFraction
  match l.exponent with
  | none => scaled significand place
  | some (down, ds) =>
    let e := digitsValue ds
    if exponentLimit < e then
      if significand ≠ 0 && !down then none else some 0
    else scaled significand (if down then place - e else place + e)

/-- The number that a literal stands for. -/
def value? (l : Literal) : Option JsonNumber :=
  let n := digitsValue l.whole
  let plain := l.fraction.isNone && l.exponent.isNone
  if plain && !l.negative && n < wordLimit then some (.integer n)
  else if plain && l.negative && 0 < n && n ≤ signedLimit then some (.integer (-n))
  else l.magnitude.map fun x => .real (if l.negative then -x else x)

end Literal

/-- The digits at the front of a text, and the rest. -/
def takeDigits (s : List Char) : List Char × List Char :=
  (s.takeWhile Char.isDigit, s.dropWhile Char.isDigit)

/-- Reads an exponent, if there is one. -/
def readExponent (s : List Char) : Option (Option (Bool × List Char) × List Char) :=
  match s with
  | c :: s' =>
    if c = 'e' || c = 'E' then
      let (down, s') := match s' with
        | '-' :: t => (true, t)
        | '+' :: t => (false, t)
        | t => (false, t)
      let (ds, rest) := takeDigits s'
      if ds.isEmpty then none else some (some (down, ds), rest)
    else some (none, s)
  | [] => some (none, [])

/-- Reads the digits after a point, if there is one. -/
def readFraction (s : List Char) : Option (Option (List Char) × List Char) :=
  match s with
  | '.' :: t =>
    let (ds, rest) := takeDigits t
    if ds.isEmpty then none else some (some ds, rest)
  | _ => some (none, s)

/-- Reads a number whose sign has been read. -/
def readUnsigned (negative : Bool) (s : List Char) : Option (JsonNumber × List Char) := do
  let (whole, s) := takeDigits s
  let leadingZero := whole.head? == some '0' && whole.length ≠ 1
  if whole.isEmpty || leadingZero then none
  else
    let (fraction, s) ← readFraction s
    let (exponent, s) ← readExponent s
    let n ← (Literal.mk negative whole fraction exponent).value?
    pure (n, s)

/-- Reads a number from the front of a text. -/
def read : List Char → Option (JsonNumber × List Char)
  | '-' :: s => readUnsigned true s
  | s => readUnsigned false s

end JsonNumber

end FacetedSearch
