/-!
# Writing TOML

A string is written in the first of these forms that needs no escapes: between double quotes, between single
quotes, between triple double quotes, between triple single quotes. If all forms need escapes, double quotes are
used, and three of them when the string has several lines.
-/

namespace FacetedSearch

namespace Toml

/-- How a string stands in a file: with escapes or as it is, on one line or on several. -/
structure StringForm where
  escapes : Bool
  lines : Bool
  deriving DecidableEq

/-- The longest run of a character. -/
def longestRun (q : Char) (s : List Char) : Nat :=
  let step (acc : Nat × Nat) (c : Char) : Nat × Nat :=
    let run := if c = q then acc.1 + 1 else 0
    (run, max acc.2 run)
  (s.foldl step (0, 0)).2

/-- Whether a character can only be written by an escape. -/
def needsEscape (c : Char) : Bool :=
  c != '\t' && c != '\n' && (c.toNat < 0x20 || c.toNat == 0x7F)

/-- The form in which a string is written. -/
def formOf (s : List Char) : StringForm :=
  let controls := s.any needsEscape
  let backslash := s.contains '\\'
  let newline := s.contains '\n'
  if !controls && !backslash && longestRun '"' s == 0 && !newline then ⟨true, false⟩
  else if !controls && longestRun '\'' s == 0 && !newline then ⟨false, false⟩
  else if !controls && !backslash && longestRun '"' s ≤ 2 then ⟨true, true⟩
  else if !controls && longestRun '\'' s ≤ 2 then ⟨false, true⟩
  else ⟨true, newline⟩

/-- A code point as four upper-case hexadecimal digits. -/
def hexCode (n : Nat) : List Char :=
  let ds := (Nat.toDigits 16 n).map Char.toUpper
  List.replicate (4 - ds.length) '0' ++ ds

/-- The characters between double quotes; `lines` says that line ends and up to two quotes in a row stay as they
are, and `run` counts the quotes right before. -/
def escapeBasic (lines : Bool) : Nat → List Char → List Char
  | _, [] => []
  | run, c :: s =>
    if c = '"' then
      if run < (if lines then 2 else 0) then '"' :: escapeBasic lines (run + 1) s
      else '\\' :: '"' :: escapeBasic lines 0 s
    else if c = '\x08' then '\\' :: 'b' :: escapeBasic lines 0 s
    else if c = '\t' then '\\' :: 't' :: escapeBasic lines 0 s
    else if c = '\n' then (if lines then ['\n'] else ['\\', 'n']) ++ escapeBasic lines 0 s
    else if c = '\x0c' then '\\' :: 'f' :: escapeBasic lines 0 s
    else if c = '\r' then '\\' :: 'r' :: escapeBasic lines 0 s
    else if c = '\\' then '\\' :: '\\' :: escapeBasic lines 0 s
    else if c.toNat < 0x20 ∨ c.toNat = 0x7F then '\\' :: 'u' :: hexCode c.toNat ++ escapeBasic lines 0 s
    else c :: escapeBasic lines 0 s

/-- A string as it stands in a file. -/
def quote (text : String) : String :=
  let s := text.toList
  let form := formOf s
  let q := if form.escapes then '"' else '\''
  let fence := List.replicate (if form.lines then 3 else 1) q
  let start := if form.lines && s.contains '\n' then ['\n'] else []
  let body := if form.escapes then escapeBasic form.lines 0 s else s
  String.ofList (fence ++ start ++ body ++ fence)

/-- A line that gives a value to a key. -/
def assignment (key value : String) : String := key ++ " = " ++ value ++ "\n"

/-- A truth value as it stands in a file. -/
def boolText (b : Bool) : String := if b then "true" else "false"

end Toml

end FacetedSearch
