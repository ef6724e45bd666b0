import FacetedSearch.Text.Cut

/-!
# Blanks and words

A blank is any character with the white-space property. `words` cuts a text at blanks, `trimBlank` drops them at
both ends.

* `words_eq_nil`: a text has no words exactly when it holds nothing but blanks.
-/

namespace FacetedSearch

/-- The code points with the white-space property. -/
def isBlankCode (n : Nat) : Bool :=
  (0x09 ≤ n && n ≤ 0x0D) || n == 0x20 || n == 0x85 || n == 0xA0 || n == 0x1680 ||
    (0x2000 ≤ n && n ≤ 0x200A) || n == 0x2028 || n == 0x2029 || n == 0x202F || n == 0x205F || n == 0x3000

/-- Whether a character has the white-space property. -/
def isBlank (c : Char) : Bool := isBlankCode c.toNat

/-- Drops the blanks at both ends. -/
def trimBlank (s : List Char) : List Char :=
  ((s.dropWhile isBlank).reverse.dropWhile isBlank).reverse

/-- The maximal runs of characters that are not blank, in order. -/
def words (s : List Char) : List (List Char) :=
  (cutWhere isBlank s).filter fun w => !w.isEmpty

theorem words_eq_nil (s : List Char) : words s = [] ↔ ∀ c ∈ s, isBlank c = true := by
  induction s with
  | nil => simp [words, cutWhere]
  | cons c s ih =>
    cases h : isBlank c with
    | true => simpa [words, cutWhere, h] using ih
    | false => cases hw : cutWhere isBlank s <;> simp [words, cutWhere, h, hw]

/-- The text without the blanks at both ends. -/
def trimmed (s : String) : String := String.ofList (trimBlank s.toList)

/-- Whether a text holds nothing but blanks. -/
def isBlankText (s : String) : Bool := s.toList.all isBlank

/-- The text with the ASCII letters in upper case. -/
def asciiUpper (s : String) : String := String.ofList (s.toList.map Char.toUpper)

end FacetedSearch
