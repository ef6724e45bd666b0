import FacetedSearch.Text.CompositionTable

/-!
# Composed form

The same letter with marks can be written in several ways: as one character, or as a letter with marks behind it in any
order. The composed form takes every character apart, sorts the marks behind a letter, and puts together again what
makes a single character.

* `toComposed`: the composed form of a text, given by its code points.
-/

namespace FacetedSearch

namespace Composition

/-- A character, a mark behind it, and the character that the two make. -/
def pairs : List (Nat × Nat × Nat) :=
  (CodeTable.records pairRows).filterMap fun
    | [a, b, c] => some (a, b, c)
    | _ => none

/-- Ranges of marks and their class. -/
def classes : List (CodeRange × Nat) := CodeTable.marked classRows

/-- The class of a mark; `0` for a character that is no mark or keeps its place. -/
def markClass (n : Nat) : Nat :=
  if n < 0x300 then 0 else CodeTable.mark classes n

/-- The class of the marks that join a letter to the next one. -/
def joining : Nat := 9

/-! ### Syllables that are composed by counting -/

/-- The first composed syllable. -/
def firstSyllable : Nat := 0xAC00

/-- How many composed syllables there are: 19 beginnings, 21 vowels, and 28 endings with the missing one. -/
def syllableCount : Nat := 19 * 21 * 28

/-- What a composed syllable is made of. -/
def syllableParts? (n : Nat) : Option (List Nat) :=
  if firstSyllable ≤ n && n < firstSyllable + syllableCount then
    let k := n - firstSyllable
    let lead := [0x1100 + k / (21 * 28), 0x1161 + k / 28 % 21]
    some (if k % 28 = 0 then lead else lead ++ [0x11A7 + k % 28])
  else none

/-- The syllable of a beginning and a vowel, or of a syllable without an ending and an ending. -/
def syllable? (a b : Nat) : Option Nat :=
  if 0x1100 ≤ a && a < 0x1100 + 19 && 0x1161 ≤ b && b < 0x1161 + 21 then
    some (firstSyllable + ((a - 0x1100) * 21 + (b - 0x1161)) * 28)
  else if firstSyllable ≤ a && a < firstSyllable + syllableCount && (a - firstSyllable) % 28 = 0 &&
      0x11A7 < b && b < 0x11A7 + 28 then
    some (a + (b - 0x11A7))
  else none

/-! ### The three steps -/

/-- The character that two others make. -/
def join? (a b : Nat) : Option Nat :=
  (syllable? a b) <|> (pairs.find? fun p => p.1 = a && p.2.1 = b).map fun p => p.2.2

/-- Takes a character apart, with a bound on how many marks are taken from it. -/
def split : Nat → Nat → List Nat
  | 0, n => [n]
  | k + 1, n =>
    match pairs.find? fun p => p.2.2 = n with
    | some (a, b, _) => split k a ++ [b]
    | none => [n]

/-- The parts of a character. No character holds more than three marks. -/
def parts (n : Nat) : List Nat :=
  if n < 0x80 then [n] else (syllableParts? n).getD (split 3 n)

/-- Moves a mark behind the marks of smaller class that follow it. -/
def settle (n : Nat) : List Nat → List Nat
  | [] => [n]
  | m :: s => if 0 < markClass m && markClass m < markClass n then m :: settle n s else n :: m :: s

/-- Sorts the marks behind each character by their class, and keeps the order of marks of one class. -/
def sortMarks (s : List Nat) : List Nat := s.foldr settle []

/-- Puts together a character and what follows it. Marks that did not join stand between, the last one first; a mark
joins over marks of smaller class only. -/
def joinAll (n : Nat) (between : List Nat) : List Nat → List Nat
  | [] => n :: between.reverse
  | m :: s =>
    let reaches := between.head?.all fun b => markClass b < markClass m
    match if reaches then join? n m else none with
    | some c => joinAll c between s
    | none =>
      if markClass m = 0 then n :: between.reverse ++ joinAll m [] s
      else joinAll n (m :: between) s

end Composition

/-- The composed form of a text. -/
def toComposed (s : List Nat) : List Nat :=
  match Composition.sortMarks (s.flatMap Composition.parts) with
  | [] => []
  | n :: s => Composition.joinAll n [] s

end FacetedSearch
