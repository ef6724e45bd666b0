/-!
# Shortest decimal text of a double

A finite double stands for every real number that is nearer to it than to its neighbours. `Dyadic.shortest` finds
the fewest decimal digits that name one of those numbers, and of several such digit strings the one nearest to
the double. `Decimal.text` lays the digits out: positionally from `0.00001` up to below `10 ^ 16`, with an
exponent elsewhere.
-/

namespace FacetedSearch

/-- A positive binary fraction `mantissa * 2 ^ exponent`; `narrow` says that the gap to the double below is half
the gap to the double above. -/
structure Dyadic where
  mantissa : Nat
  exponent : Int
  narrow : Bool

/-- A decimal fraction `digits * 10 ^ exponent`. -/
structure Decimal where
  digits : Nat
  exponent : Int
  deriving DecidableEq

/-- `base ^ e` for a non-negative exponent, and 1 for a negative one. -/
private def powerUp (base : Nat) (e : Int) : Nat := Nat.pow base e.toNat

/-- The leading bit of a mantissa, which is not written; the 52 bits below it are. -/
def Dyadic.hiddenBit : Nat := 0x10000000000000

/-- The sign bit. -/
def Dyadic.signBit : Nat := 0x8000000000000000

/-- The magnitude of a finite double, from its bits. -/
def Dyadic.ofBits (bits : UInt64) : Dyadic :=
  let e := bits.toNat / hiddenBit % 0x800
  let f := bits.toNat % hiddenBit
  if e = 0 then ⟨f, -1074, false⟩
  else ⟨f + hiddenBit, (e : Int) - 1075, f == 0 && 1 < e⟩

namespace Dyadic

/-- Compares `4 * digits * 10 ^ e` with `x * 2 ^ exponent`, where `x` counts quarters of the last place. -/
private def compareQuarters (v : Dyadic) (d : Decimal) (x : Nat) : Ordering :=
  compare (4 * d.digits * powerUp 10 d.exponent * powerUp 2 (-v.exponent))
    (x * powerUp 2 v.exponent * powerUp 10 (-d.exponent))

/-- Whether a decimal lies among the numbers that round to the double; the ends belong to an even mantissa. -/
def readsBack (v : Dyadic) (d : Decimal) : Bool :=
  let low := v.compareQuarters d (4 * v.mantissa - if v.narrow then 1 else 2)
  let high := v.compareQuarters d (4 * v.mantissa + 2)
  if v.mantissa % 2 = 0 then low != .lt && high != .gt else low == .gt && high == .lt

/-- The whole multiples of `10 ^ e` in the double. -/
private def floorAt (v : Dyadic) (e : Int) : Nat :=
  v.mantissa * powerUp 2 v.exponent * powerUp 10 (-e) / (powerUp 10 e * powerUp 2 (-v.exponent))

/-- The least `k` with the double below `10 ^ k`, searched among all that doubles can need. -/
private def scale (v : Dyadic) : Int :=
  let ks := (List.range 640).map fun n : Nat => (n : Int) - 330
  (ks.find? fun k => v.floorAt k == 0).getD 310

/-- The better of the two neighbours of the double on the grid of multiples of `10 ^ e`. -/
private def onGrid (v : Dyadic) (e : Int) : Option Decimal :=
  let below : Decimal := ⟨v.floorAt e, e⟩
  let above : Decimal := ⟨below.digits + 1, e⟩
  match v.readsBack below, v.readsBack above with
  | true, false => some below
  | false, true => some above
  | false, false => none
  | true, true =>
    match v.compareQuarters ⟨below.digits + above.digits, e⟩ (8 * v.mantissa) with
    | .gt => some below
    | .lt => some above
    | .eq => some (if below.digits % 2 = 0 then below else above)

/-- Moves the trailing zeros of the digits into the exponent. -/
private def stripZeros (d : Decimal) : Decimal :=
  if h : d.digits = 0 ∨ d.digits % 10 ≠ 0 then d
  else stripZeros ⟨d.digits / 10, d.exponent + 1⟩
termination_by d.digits
decreasing_by omega

/-- The fewest digits that read back to the double, and of those the nearest to it. -/
def shortest (v : Dyadic) : Decimal :=
  let k := v.scale
  let grids := (List.range 17).map fun n : Nat => k - 1 - (n : Int)
  stripZeros ((grids.findSome? v.onGrid).getD ⟨v.floorAt (k - 17), k - 17⟩)

end Dyadic

namespace Decimal

private def zeros (n : Nat) : String := String.ofList (List.replicate n '0')

/-- The digits with a point after the first `n` of them. -/
private def pointAfter (ds : List Char) (n : Nat) : String :=
  String.ofList (ds.take n ++ '.' :: ds.drop n)

/-- The text of a decimal: positional for `0.00001` up to below `10 ^ 16`, else one digit, the other digits after a
point, and a signed exponent. -/
def text (d : Decimal) : String :=
  let ds := Nat.toDigits 10 d.digits
  let point : Int := ds.length + d.exponent
  if 16 < point || point < -4 then
    let mantissa := if ds.length ≤ 1 then String.ofList ds else pointAfter ds 1
    let e := point - 1
    mantissa ++ (if e < 0 then "e-" else "e+") ++ toString e.natAbs
  else if point ≤ 0 then "0." ++ zeros (-point).toNat ++ String.ofList ds
  else if ds.length ≤ point.toNat then
    String.ofList ds ++ zeros (point.toNat - ds.length) ++ ".0"
  else pointAfter ds point.toNat

end Decimal

/-- The text of a finite double. -/
def doubleText (x : Float) : String :=
  let bits := x.toBits
  let sign := if bits.toNat < Dyadic.signBit then "" else "-"
  let v := Dyadic.ofBits bits
  if v.mantissa = 0 then sign ++ "0.0" else sign ++ v.shortest.text

end FacetedSearch
