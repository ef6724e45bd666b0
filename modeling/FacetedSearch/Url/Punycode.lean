import FacetedSearch.Text.Cut

/-!
# Punycode

A label with characters beyond ASCII is written in ASCII: first its ASCII characters and a hyphen, then one number for
each other character. The characters are put in one by one, in ascending order; a number tells how many places to pass
from the last one, where after the last place of a text the count goes on at its start with the next code point. The
numbers are written in 36 digits, the lowest first, and a digit below a threshold ends a number. The thresholds follow
the size of the numbers before.

* `encode`, `decode`: from a label to its ASCII form, and back.
* `threshold_pos`: thresholds are positive, for which writing a number ends.
-/

namespace FacetedSearch

namespace Punycode

/-- The character of a digit. -/
def digitChar (d : Nat) : Char := if d < 26 then .ofNat (0x61 + d) else .ofNat (0x30 + (d - 26))

/-- The value of a digit. -/
def digit? (c : Char) : Option Nat :=
  if c.isLower then some (c.toNat - 0x61)
  else if c.isDigit then some (c.toNat - 0x30 + 26)
  else none

/-- The threshold of the digit at a place, which is counted in steps of 36. -/
def threshold (bias place : Nat) : Nat := min 26 (max 1 (place - bias))

theorem threshold_pos (bias place : Nat) : 1 ≤ threshold bias place := by
  unfold threshold; omega

/-- Divides a number by 35 until it is small, and adds 36 for each division. -/
def scale (n : Nat) : Nat := if 455 < n then 36 + scale (n / 35) else 36 * n / (n + 38)
termination_by n
decreasing_by omega

/-- The bias behind a number, for a text that has grown to `size` characters. -/
def nextBias (delta size : Nat) (isFirst : Bool) : Nat :=
  let d := if isFirst then delta / 700 else delta / 2
  scale (d + d / size)

/-- The bias before the first number. -/
def firstBias : Nat := 72

/-- The first code point that is put in. -/
def firstCode : Nat := 0x80

/-! ### Writing -/

/-- Writes a number from a place on. -/
def writeNumber (bias place n : Nat) : List Char :=
  let t := threshold bias place
  if n < t then [digitChar n]
  else digitChar (t + (n - t) % (36 - t)) :: writeNumber bias (place + 36) ((n - t) / (36 - t))
termination_by n
decreasing_by
  have := threshold_pos bias place
  have := Nat.div_le_self (n - threshold bias place) (36 - threshold bias place)
  omega

/-- What is put in beyond ASCII, in its order: a code point, and its place among what stands there by then. -/
def insertions (s : List Char) : List (Nat × Nat) :=
  let later := s.zipIdx.filter fun p => firstCode ≤ p.1.toNat
  (later.mergeSort fun p q => p.1.toNat ≤ q.1.toNat).map fun p =>
    (p.1.toNat, (s.take p.2).countP (· ≤ p.1))

/-- Writes what is put into a text of `size` characters, from a code point and a place on. -/
def writeInsertions (bias code place size : Nat) (isFirst : Bool) : List (Nat × Nat) → List Char
  | [] => []
  | (n, i) :: rest =>
    let delta := (n - code) * (size + 1) + i - place
    writeNumber bias 36 delta ++
      writeInsertions (nextBias delta (size + 1) isFirst) n (i + 1) (size + 1) false rest

/-- The ASCII form of a label. -/
def encode (s : List Char) : List Char :=
  let kept := s.filter fun c => c.toNat < firstCode
  (if kept.isEmpty then [] else kept ++ ['-']) ++
    writeInsertions firstBias firstCode 0 kept.length true (insertions s)

/-! ### Reading -/

/-- Reads a number: its value, and what follows. -/
def readNumber? (bias : Nat) : Nat → Nat → List Char → Option (Nat × List Char)
  | _, _, [] => none
  | place, weight, c :: s => do
    let d ← digit? c
    let t := threshold bias place
    if d < t then some (d * weight, s)
    else
      let (n, rest) ← readNumber? bias (place + 36) (weight * (36 - t)) s
      some (d * weight + n, rest)

theorem readNumber?_length {bias place weight : Nat} {s rest : List Char} {n : Nat}
    (h : readNumber? bias place weight s = some (n, rest)) : rest.length < s.length := by
  induction s generalizing place weight n with
  | nil => simp [readNumber?] at h
  | cons c s ih =>
    simp only [readNumber?, Option.bind_eq_bind, Option.bind_eq_some_iff] at h
    obtain ⟨d, _, h⟩ := h
    split at h
    · simp only [Option.some.injEq, Prod.mk.injEq] at h
      simp [h.2]
    · simp only [Option.bind_eq_some_iff, Option.some.injEq, Prod.mk.injEq] at h
      obtain ⟨⟨m, r⟩, hr, _, rfl⟩ := h
      exact Nat.lt_succ_of_lt (ih hr)

/-- Whether a number is a code point of a character. -/
def isCharacter (n : Nat) : Bool := n < 0xD800 || (0xDFFF < n && n < 0x110000)

/-- Puts characters into a text, from a code point and a place on. -/
def readInsertions? (bias code place : Nat) (isFirst : Bool) (text s : List Char) : Option (List Char) :=
  if s.isEmpty then some text
  else
    match h : readNumber? bias 36 1 s with
    | none => none
    | some (delta, rest) =>
      let size := text.length + 1
      let n := code + (place + delta) / size
      let i := (place + delta) % size
      if isCharacter n then
        readInsertions? (nextBias delta size isFirst) n (i + 1) false (text.insertIdx i (.ofNat n)) rest
      else none
termination_by s.length
decreasing_by exact readNumber?_length h

/-- The label of an ASCII form. -/
def decode (s : List Char) : Option (List Char) :=
  let tail := (s.reverse.takeWhile (· != '-')).reverse
  let kept := s.take (s.length - tail.length - 1)
  if kept.isEmpty then readInsertions? firstBias firstCode 0 true [] s
  else readInsertions? firstBias firstCode 0 true kept tail

end Punycode

end FacetedSearch
