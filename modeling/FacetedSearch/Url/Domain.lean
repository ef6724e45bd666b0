import FacetedSearch.Text.Direction
import FacetedSearch.Text.Joining
import FacetedSearch.Url.DomainTable
import FacetedSearch.Url.Percent
import FacetedSearch.Url.Punycode

/-!
# Domain names

A domain name is looked up in its ASCII form. Its characters are brought into their plain form, which is the small one
for letters, and the whole into its composed form; then each label that holds more than ASCII is written in Punycode
behind a mark. A label that has the mark from the start has to be what is written for some label. If a name holds
letters that are written from right to left, each of its labels has one direction.

* `Domain.toAscii?`: the ASCII form of a name, if it is one.
-/

namespace FacetedSearch

namespace Domain

/-- The characters that a name may be written with. -/
def allowedRanges : List CodeRange := CodeTable.ranges allowedRows

/-- The runs of characters that stand for others: a range, the step in it, and what its first character stands for. -/
def runs : List (CodeRange × Nat × Nat) :=
  (CodeTable.records runRows).filterMap fun
    | [low, high, step, first] => some ((low, high), step, first)
    | _ => none

/-- Single characters and what they stand for. -/
def singles : List (Nat × List Nat) :=
  (CodeTable.records singleRows).filterMap fun
    | n :: ms => some (n, ms)
    | [] => none

/-- The characters that only modify the one before. -/
def markRanges : List CodeRange := CodeTable.ranges markRows

/-- Whether an ASCII character can stand in no name. -/
def isForbidden (c : Char) : Bool :=
  c.toNat ≤ 0x20 || c.toNat = 0x7F ||
    ['%', '#', '/', ':', '<', '>', '?', '@', '[', '\\', ']', '^', '|'].contains c

/-- What a character beyond ASCII stands for. -/
def plainCodes? (n : Nat) : Option (List Nat) :=
  if inRanges droppedRanges n then some []
  else
    match runs.find? fun r => r.1.1 ≤ n && n ≤ r.1.2 && (n - r.1.1) % r.2.1 = 0 with
    | some ((low, _), _, first) => some [first + (n - low)]
    | none => (singles.lookup n) <|> if inRanges allowedRanges n then some [n] else none

/-- What a character stands for. -/
def plain? (c : Char) : Option (List Nat) :=
  if c.toNat < 0x80 then some [c.toLower.toNat] else plainCodes? c.toNat

/-- Whether a label beyond ASCII may stand in a name. -/
def isLabel (s : List Char) : Bool :=
  let ns := s.map Char.toNat
  !(ns.head?.any (inRanges markRanges)) && hasJoinersInPlace ns

/-- What stands before the Punycode of a label. -/
def mark : List Char := ['x', 'n', '-', '-']

/-- Whether a label is in the form that all its written forms are brought into. -/
def isPlain (s : List Char) : Bool :=
  s.all (fun c => plain? c == some [c.toNat]) && toComposed (s.map Char.toNat) == s.map Char.toNat

/-- Whether a text is ASCII. -/
def isAscii (s : List Char) : Bool := s.all fun c => c.toNat < 0x80

/-- A label as it is read by people, and its ASCII form. -/
structure Label where
  text : List Char
  ascii : List Char

/-- The label that is written behind the mark. -/
def readMarked? (s : List Char) : Option Label := do
  let text ← if isAscii s then Punycode.decode s else none
  if !isAscii text && isPlain text && isLabel text then some ⟨text, mark ++ s⟩ else none

/-- The label of a text in plain form. -/
def readLabel? (s : List Char) : Option Label :=
  if mark.isPrefixOf s then readMarked? (s.drop mark.length)
  else if isAscii s then some ⟨s, s⟩
  else if isLabel s then some ⟨s, mark ++ Punycode.encode s⟩
  else none

/-- The ASCII form of a name. -/
def toAscii? (s : List Char) : Option (List Char) := do
  let plain := (← s.mapM plain?).flatten
  let name := (if isAscii s then plain else toComposed plain).map Char.ofNat
  if name.any isForbidden then none
  else
    let labels ← (cutAt '.' name).mapM readLabel?
    if labels.any (isTurned ·.text) && !labels.all (hasOneDirection ·.text) then none
    else some (List.intercalate ['.'] (labels.map Label.ascii))

end Domain

end FacetedSearch
