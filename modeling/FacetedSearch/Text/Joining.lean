import FacetedSearch.Text.Composition
import FacetedSearch.Text.JoiningTable

/-!
# Joiners

Two characters without a form tell whether the letters around them are written in one stroke. They stand behind a mark
that joins letters; the one that keeps letters apart also stands between two letters that would be joined without it.

* `hasJoinersInPlace`: whether all joiners of a text stand where they mean something.
-/

namespace FacetedSearch

namespace Joining

/-- The table of joined letters. -/
def kinds : List (CodeRange × Nat) := CodeTable.marked kindRows

/-- The kind of a character in the table; `0` for a character that is not joined. -/
def kind (n : Nat) : Nat := CodeTable.mark kinds n

/-- Whether a letter is joined with the next one. -/
def joinsNext (n : Nat) : Bool := kind n = 1 || kind n = 3

/-- Whether a letter is joined with the one before. -/
def joinsPrevious (n : Nat) : Bool := kind n = 2 || kind n = 3

/-- Whether letters join across a character. -/
def isCrossed (n : Nat) : Bool := kind n = 4

/-- The first character that letters do not join across, if it has a property. -/
def reaches (p : Nat → Bool) (s : List Nat) : Bool := (s.find? fun n => p n || !isCrossed n).any p

/-- The character that keeps letters apart. -/
def nonJoiner : Nat := 0x200C

/-- The character that joins letters. -/
def joiner : Nat := 0x200D

/-- Whether a character is one of the two. -/
def isJoiner (n : Nat) : Bool := n = nonJoiner || n = joiner

/-- Whether a joiner may stand between two texts, of which the one before is given last character first. -/
def fits (n : Nat) (before after : List Nat) : Bool :=
  before.head?.any (Composition.markClass · = Composition.joining) ||
    (n = nonJoiner && reaches joinsNext before && reaches joinsPrevious after)

/-- Whether the joiners of a text may stand behind another one, which is given last character first. -/
def allFit (before : List Nat) : List Nat → Bool
  | [] => true
  | n :: s => (!isJoiner n || fits n before s) && allFit (n :: before) s

end Joining

/-- Whether all joiners of a text stand where they mean something. -/
def hasJoinersInPlace (s : List Nat) : Bool := Joining.allFit [] s

end FacetedSearch
