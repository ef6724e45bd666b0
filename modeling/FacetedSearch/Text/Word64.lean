/-!
# Unsigned 64-bit integers in text

An optional plus sign and at least one decimal digit. The first fault from the left is the one that is reported.
-/

namespace FacetedSearch

/-- One more than the largest unsigned 64-bit integer. -/
def wordLimit : Nat := 0x10000000000000000

/-- One more than the largest signed 64-bit integer. -/
def signedLimit : Nat := 0x8000000000000000

/-- Why a text is not an unsigned 64-bit integer. -/
inductive WordFault
  | empty
  | invalidDigit
  | tooLarge
  deriving DecidableEq

/-- The fault in words. -/
def WordFault.message : WordFault → String
  | .empty => "cannot parse integer from empty string"
  | .invalidDigit => "invalid digit found in string"
  | .tooLarge => "number too large to fit in target type"

/-- Appends decimal digits to a number. -/
def appendDigits : Nat → List Char → Except WordFault Nat
  | n, [] => .ok n
  | n, c :: s =>
    if !c.isDigit then .error .invalidDigit
    else
      let m := 10 * n + (c.toNat - '0'.toNat)
      if m < wordLimit then appendDigits m s else .error .tooLarge

/-- Reads an unsigned 64-bit integer. -/
def readWord (s : String) : Except WordFault Nat :=
  match s.toList with
  | [] => .error .empty
  | ['+'] => .error .invalidDigit
  | '+' :: ds => appendDigits 0 ds
  | ds => appendDigits 0 ds

/-- The unsigned 64-bit integer in a text, if the text is one. -/
def word? (s : String) : Option Nat :=
  (readWord s).toOption

end FacetedSearch
