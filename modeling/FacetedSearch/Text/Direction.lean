import FacetedSearch.Text.DirectionTable

/-!
# One direction

A text that mixes letters from left to right with letters from right to left can be shown in several orders. A part of
a text has one direction if its order is plain from the part alone: it begins with a letter, holds no letter of the
other direction, and ends with a letter or digit of its own.

* `hasOneDirection`: whether a part of a text has one direction;
* `isTurned`: whether a part of a text makes the order of the whole doubtful.
-/

namespace FacetedSearch

/-- How a character takes part in the direction of a text. -/
inductive WritingDirection
  | leftToRight
  | rightToLeft
  | rightToLeftDigit
  | digit
  | neutral
  | mark
  deriving DecidableEq

namespace WritingDirection

/-- The kinds of the table. -/
def ofNumber : Nat → WritingDirection
  | 1 => .rightToLeft
  | 2 => .rightToLeftDigit
  | 3 => .digit
  | 4 => .neutral
  | 5 => .mark
  | _ => .leftToRight

/-- The table of directions. -/
def kinds : List (CodeRange × Nat) := CodeTable.marked kindRows

/-- The direction of an ASCII character. -/
def ofAscii (c : Char) : WritingDirection :=
  if c.isAlpha then .leftToRight else if c.isDigit then .digit else .neutral

/-- The direction of a character. -/
def ofChar (c : Char) : WritingDirection :=
  if c.toNat < 0x80 then ofAscii c else ofNumber (CodeTable.mark kinds c.toNat)

/-- Whether a character belongs to a script that is written from right to left. -/
def isRight (d : WritingDirection) : Bool := d = .rightToLeft || d = .rightToLeftDigit

/-- What ends a part that is written from left to right. -/
def endsLeft (d : WritingDirection) : Bool := d = .leftToRight || d = .digit

/-- What ends a part that is written from right to left. -/
def endsRight (d : WritingDirection) : Bool := isRight d || d = .digit

end WritingDirection

/-- Whether some character belongs to a script that is written from right to left. -/
def isTurned (s : List Char) : Bool := s.any fun c => (WritingDirection.ofChar c).isRight

/-- Whether a part of a text has one direction, given the directions of its characters. Marks at its end do not count,
and digits are all of one kind in a part from right to left. -/
def isOneDirection : List WritingDirection → Bool
  | [] => true
  | first :: rest =>
    let body := (rest.reverse.dropWhile (· = .mark)).reverse
    match first with
    | .leftToRight => body.all (!·.isRight) && body.getLast?.all WritingDirection.endsLeft
    | .rightToLeft =>
      !body.contains .leftToRight && body.getLast?.all WritingDirection.endsRight &&
        !(body.contains .digit && body.contains .rightToLeftDigit)
    | _ => false

/-- Whether a part of a text has one direction. -/
def hasOneDirection (s : List Char) : Bool := isOneDirection (s.map WritingDirection.ofChar)

end FacetedSearch
