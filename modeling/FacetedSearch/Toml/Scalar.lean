import FacetedSearch.Toml.Value
import FacetedSearch.Json.Reader

/-!
# TOML scalars

An unquoted scalar is a truth value, an integer in one of four bases, a double, a date or a time. `Toml.scalar?` reads
the whole of its text.
-/

namespace FacetedSearch

namespace Toml

/-- Digits without the underscores that may stand between them. -/
def plainDigits? (digit : Char → Bool) : List Char → Option (List Char)
  | [] => none
  | [c] => if digit c then some [c] else none
  | c :: '_' :: s => if digit c then (plainDigits? digit s).map (c :: ·) else none
  | c :: s => if digit c then (plainDigits? digit s).map (c :: ·) else none

/-- The number written by digits of a base up to sixteen. -/
def baseValue (base : Nat) (ds : List Char) : Nat :=
  ds.foldl (fun n d => base * n + (Hex.value? d).getD 0) 0

/-- Whether a character is a digit of a base up to sixteen. -/
def isDigitOf (base : Nat) (c : Char) : Bool :=
  match Hex.value? c with
  | some n => n < base
  | none => false

/-- The digits of a decimal integer: no zero stands in front of another digit. -/
def decimalDigits? (s : List Char) : Option (List Char) :=
  match plainDigits? Char.isDigit s with
  | some ('0' :: _ :: _) => none
  | ds => ds

/-- Splits off an optional sign; the first part says whether it is a minus. -/
def takeSign : List Char → Bool × List Char
  | '+' :: s => (false, s)
  | '-' :: s => (true, s)
  | s => (false, s)

/-- Reads an integer. -/
def integer? (s : List Char) : Option Int :=
  match s with
  | '0' :: 'x' :: ds => (plainDigits? (isDigitOf 16) ds).map fun ds => baseValue 16 ds
  | '0' :: 'o' :: ds => (plainDigits? (isDigitOf 8) ds).map fun ds => baseValue 8 ds
  | '0' :: 'b' :: ds => (plainDigits? (isDigitOf 2) ds).map fun ds => baseValue 2 ds
  | s =>
    let (negative, ds) := takeSign s
    (decimalDigits? ds).map fun ds => if negative then -(baseValue 10 ds : Int) else baseValue 10 ds

/-- The double nearest to `digits * 10 ^ e`, or nothing beyond the range of doubles. -/
def decimalDouble? (digits : Nat) (e : Int) : Option Float :=
  let places : Int := (Nat.toDigits 10 digits).length
  if digits = 0 || places + e < -400 then some 0
  else if 400 < places + e then none
  else
    let x := Float.ofScientific digits (e < 0) e.natAbs
    if x.isFinite then some x else none

/-- Reads a double: a decimal integer with a fraction, an exponent, or both. -/
def double? (s : List Char) : Option Float := do
  let (negative, s) := takeSign s
  let signed (x : Float) := if negative then -x else x
  match s with
  | ['i', 'n', 'f'] => pure (signed (1 / 0))
  | ['n', 'a', 'n'] => pure (0 / 0)
  | _ =>
    let isMark (c : Char) := c == 'e' || c == 'E'
    let mantissa := s.takeWhile (!isMark ·)
    let exponent := s.dropWhile (!isMark ·)
    let whole ← decimalDigits? (mantissa.takeWhile (· != '.'))
    let fraction ← match mantissa.dropWhile (· != '.') with
      | [] => pure []
      | _ :: t => plainDigits? Char.isDigit t
    let e : Int ← match exponent with
      | [] => pure 0
      | _ :: t =>
        let (down, ds) := takeSign t
        let ds ← plainDigits? Char.isDigit ds
        pure (if down then -(baseValue 10 ds : Int) else baseValue 10 ds)
    let x ← decimalDouble? (baseValue 10 (whole ++ fraction)) (e - fraction.length)
    pure (signed x)

/-- The number written by exactly so many decimal digits, and the rest. -/
def fixedDigits? (n : Nat) (s : List Char) : Option (Nat × List Char) :=
  let ds := s.take n
  if ds.length = n ∧ ds.all Char.isDigit then some (baseValue 10 ds, s.drop n) else none

/-- The days of a month in the proleptic calendar. -/
def daysInMonth (year month : Nat) : Nat :=
  if month = 2 then
    if year % 4 = 0 ∧ (year % 100 ≠ 0 ∨ year % 400 = 0) then 29 else 28
  else if month = 4 ∨ month = 6 ∨ month = 9 ∨ month = 11 then 30
  else 31

/-- Reads a date from the front of a text. -/
def readDate (s : List Char) : Option (CalendarDate × List Char) := do
  let (year, s) ← fixedDigits? 4 s
  match s with
  | '-' :: s =>
    let (month, s) ← fixedDigits? 2 s
    match s with
    | '-' :: s =>
      let (day, s) ← fixedDigits? 2 s
      if 1 ≤ month ∧ month ≤ 12 ∧ 1 ≤ day ∧ day ≤ daysInMonth year month then pure (⟨year, month, day⟩, s)
      else none
    | _ => none
  | _ => none

/-- Reads the digits after a point, if there is one. -/
def readSecondFraction (s : List Char) : Option (Option (List Char) × List Char) :=
  match s with
  | '.' :: t =>
    let ds := t.takeWhile Char.isDigit
    if ds.isEmpty then none else some (some ds, t.dropWhile Char.isDigit)
  | _ => some (none, s)

/-- Reads a time from the front of a text; the seconds may be missing. -/
def readTime (s : List Char) : Option (ClockTime × List Char) := do
  let (hour, s) ← fixedDigits? 2 s
  match s with
  | ':' :: s =>
    let (minute, s) ← fixedDigits? 2 s
    if hour > 23 || minute > 59 then none
    else
      match s with
      | ':' :: s =>
        let (second, s) ← fixedDigits? 2 s
        let (fraction, s) ← readSecondFraction s
        if second > 60 then none else pure (⟨hour, minute, some second, fraction⟩, s)
      | s => pure (⟨hour, minute, none, none⟩, s)
  | _ => none

/-- Reads an offset that makes up a whole text; an empty text has none. -/
def offset? (s : List Char) : Option (Option ZoneOffset) :=
  let numeric (west : Bool) (s : List Char) : Option (Option ZoneOffset) := do
    let (hour, s) ← fixedDigits? 2 s
    match s with
    | ':' :: s =>
      let (minute, s) ← fixedDigits? 2 s
      if s.isEmpty && hour ≤ 23 && minute ≤ 59 then pure (some (.minutes west (60 * hour + minute))) else none
    | _ => none
  match s with
  | [] => some none
  | ['Z'] | ['z'] => some (some .universal)
  | '+' :: s => numeric false s
  | '-' :: s => numeric true s
  | _ => none

/-- Reads a date, a time, or both. -/
def moment? (s : List Char) : Option Moment :=
  match readDate s with
  | some (date, []) => some ⟨some date, none, none⟩
  | some (date, c :: s) =>
    if c = 'T' ∨ c = 't' ∨ c = ' ' then do
      let (time, s) ← readTime s
      let offset ← offset? s
      pure ⟨some date, some time, offset⟩
    else none
  | none =>
    match readTime s with
    | some (time, []) => some ⟨none, some time, none⟩
    | _ => none

/-- Integers of files are kept up to the range of 128 bits. -/
def integerLimit : Int := 0x80000000000000000000000000000000

/-- The value of an unquoted scalar. -/
def scalar? (s : List Char) : Option Toml :=
  if s = ['t', 'r', 'u', 'e'] then some (.bool true)
  else if s = ['f', 'a', 'l', 's', 'e'] then some (.bool false)
  else
    match integer? s, double? s, moment? s with
    | some n, _, _ => if -integerLimit ≤ n ∧ n < 2 * integerLimit then some (.int n) else none
    | none, some x, _ => some (.float x)
    | none, none, some m => some (.moment m)
    | none, none, none => none

/-- Whether a character belongs to an unquoted scalar. -/
def isScalarChar (c : Char) : Bool :=
  c.isAlphanum || c == '+' || c == '-' || c == '_' || c == '.' || c == ':'

/-- Splits an unquoted scalar from the front of a text; a blank may stand between a date and a time. -/
def takeScalar (s : List Char) : List Char × List Char :=
  let first := s.takeWhile isScalarChar
  let rest := s.dropWhile isScalarChar
  match readDate first, rest with
  | some (_, []), ' ' :: d :: t =>
    if d.isDigit then
      (first ++ ' ' :: (d :: t).takeWhile isScalarChar, (d :: t).dropWhile isScalarChar)
    else (first, rest)
  | _, _ => (first, rest)

end Toml

end FacetedSearch
