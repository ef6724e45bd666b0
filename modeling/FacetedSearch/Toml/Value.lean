import FacetedSearch.Json.Basic
import FacetedSearch.Text.Word64

/-!
# TOML values

A settings file holds strings, integers, doubles, truth values, dates and times, arrays, and tables whose entries
keep their order.

* `Toml.toJson?`: the JSON value that carries the same data; dates become text, and a double that is not finite
  becomes null. Integers beyond the signed 64-bit range have no such value.
-/

namespace FacetedSearch

/-- A calendar date. -/
structure CalendarDate where
  year : Nat
  month : Nat
  day : Nat
  deriving DecidableEq

/-- A time of day; the fraction holds the digits after the point. -/
structure ClockTime where
  hour : Nat
  minute : Nat
  second : Option Nat
  fraction : Option (List Char)
  deriving DecidableEq

/-- The distance of a local time from universal time. -/
inductive ZoneOffset
  | universal
  | minutes (west : Bool) (n : Nat)
  deriving DecidableEq

/-- A date, a time, or both with or without an offset. -/
structure Moment where
  date : Option CalendarDate := none
  time : Option ClockTime := none
  offset : Option ZoneOffset := none
  deriving DecidableEq

/-- A number with zeros in front up to some width. -/
def padded (width n : Nat) : String :=
  let ds := Nat.toDigits 10 n
  String.ofList (List.replicate (width - ds.length) '0' ++ ds)

/-- The date as year, month and day. -/
def CalendarDate.text (d : CalendarDate) : String :=
  padded 4 d.year ++ "-" ++ padded 2 d.month ++ "-" ++ padded 2 d.day

/-- The digits of a fraction of a second: at most nine, without trailing zeros, and at least one. -/
def fractionText (ds : List Char) : String :=
  match ((ds.take 9).reverse.dropWhile (· == '0')).reverse with
  | [] => "0"
  | ds => String.ofList ds

/-- The time as hour, minute, and what is known of the second. -/
def ClockTime.text (t : ClockTime) : String :=
  padded 2 t.hour ++ ":" ++ padded 2 t.minute ++
    (match t.second with
      | some s => ":" ++ padded 2 s
      | none => "") ++
    (match t.fraction with
      | some ds => "." ++ fractionText ds
      | none => "")

/-- The offset as hours and minutes; an offset of zero is written with a plus sign. -/
def ZoneOffset.text : ZoneOffset → String
  | .universal => "Z"
  | .minutes west n => (if west && n ≠ 0 then "-" else "+") ++ padded 2 (n / 60) ++ ":" ++ padded 2 (n % 60)

/-- The text of a date and time, with a `T` between the two. -/
def Moment.text (m : Moment) : String :=
  (m.date.map CalendarDate.text).getD "" ++ (if m.date.isSome && m.time.isSome then "T" else "") ++
    (m.time.map ClockTime.text).getD "" ++ (m.offset.map ZoneOffset.text).getD ""

/-- A value of a settings file. -/
inductive Toml
  | str (s : String)
  | int (n : Int)
  | float (x : Float)
  | bool (b : Bool)
  | moment (m : Moment)
  | arr (items : List Toml)
  | table (entries : List (String × Toml))

instance : Inhabited Toml := ⟨.table []⟩

namespace Toml

/-- What kind of value this is, in words. -/
def kind : Toml → String
  | .str _ => "string"
  | .int _ => "integer"
  | .float _ => "float"
  | .bool _ => "boolean"
  | .moment _ => "datetime"
  | .arr _ => "array"
  | .table _ => "table"

mutual

/-- The JSON value with the same data, if every integer is within the signed 64-bit range. -/
def toJson? : Toml → Option Json
  | .str s => some (.str s)
  | .int n => if -signedLimit ≤ n ∧ n < signedLimit then some (.num (.integer n)) else none
  | .float x => some (if x.isFinite then .num (.real x) else .null)
  | .bool b => some (.bool b)
  | .moment m => some (.str m.text)
  | .arr vs => (toJsonItems? vs).map .arr
  | .table es => (toJsonEntries? es).map .obj

/-- The JSON values of all items. -/
def toJsonItems? : List Toml → Option (List Json)
  | [] => some []
  | v :: vs =>
    match toJson? v, toJsonItems? vs with
    | some w, some ws => some (w :: ws)
    | _, _ => none

/-- The JSON values of all entries. -/
def toJsonEntries? : List (String × Toml) → Option (List (String × Json))
  | [] => some []
  | (k, v) :: es =>
    match toJson? v, toJsonEntries? es with
    | some w, some ws => some ((k, w) :: ws)
    | _, _ => none

end

end Toml

end FacetedSearch
