import FacetedSearch.Text.WidthTable

/-!
# Display width

How many columns of a terminal a text takes. A character by itself takes two columns if it is wide, none if it only
modifies the one before, and one otherwise. Some characters are shown as one with those behind them: pictographs that
are joined or marked, the two halves of a flag, and pairs of letters in several scripts. So a text is measured from its
end, and `Trail` tells what the next character may be shown with.

* `charWidth`: the columns of a single character;
* `textWidth`: the columns of a text.
-/

namespace FacetedSearch

namespace Width

/-- The characters that take two columns. -/
def wideRanges : List CodeRange := CodeTable.ranges wideRows

/-- The characters that take no column. -/
def flatRanges : List CodeRange := CodeTable.ranges flatRows

/-- The characters without a column that letters do not join across. -/
def partingRanges : List CodeRange := CodeTable.ranges partingRows

/-- The characters that are pictographs by themselves. -/
def pictographRanges : List CodeRange := CodeTable.ranges pictographRows

/-- The characters whose form a mark behind them can change. -/
def variedRanges : List CodeRange := CodeTable.ranges variedRows

/-- The pictographs that take a colour of skin. -/
def skinRanges : List CodeRange := CodeTable.ranges skinRows

end Width

/-- The columns of a single character. -/
def charWidth (c : Char) : Nat :=
  let n := c.toNat
  if n ≤ 0xA0 then 1
  else if inRanges Width.flatRanges n then 0
  else if n = 0x17A4 then 2
  else if n = 0x17D8 then 3
  else if inRanges Width.wideRanges n then 2
  else 1

/-- The part of a text that the character before it may be shown with. A tag is told by its letters and digits. -/
inductive TrailPart
  | nothing
  | arabicAlef
  | hebrewLamed
  | bugineseYa
  | bugineseSyllable
  | tifinaghLetter
  | tifinaghPair
  | lisuTone
  | orkhonLetter
  | khmerLetter
  | kiratRaiVowel
  | kiratRaiPair
  | skin
  | flagHalf
  | flagHalves
  | pictograph
  | joinedPictograph
  | joinedKey
  | joinedFlagHalf
  | joinedFlag
  | joinedTag (letters digits : Nat)
  deriving DecidableEq

/-- The form that a mark asks for. -/
inductive MarkedForm
  | sign
  | pictograph
  deriving DecidableEq

/-- What stands behind a place in a text: a part that the character there may be shown with, whether a joiner stands
before that part, and whether a mark before it asks for a form. -/
structure Trail where
  part : TrailPart := .nothing
  isJoined : Bool := false
  form : Option MarkedForm := none
  deriving DecidableEq

namespace Trail

/-- Whether a part is a letter, so that marks may stand between it and the letter before. -/
def isLetter : TrailPart → Bool
  | .arabicAlef | .hebrewLamed | .bugineseYa | .bugineseSyllable | .tifinaghLetter | .tifinaghPair | .lisuTone
  | .orkhonLetter | .khmerLetter => true
  | _ => false

/-- Whether a part is a pictograph behind a joiner, also one with a key around it. -/
def isJoinedPictograph : TrailPart → Bool
  | .joinedPictograph | .joinedKey => true
  | _ => false

/-- The trail behind a character that does not take the form it is asked for. -/
def unmarked (t : Trail) : Trail :=
  if t.form = none then t else if isLetter t.part then { t with form := none } else {}

/-- The trail behind a mark for a form. -/
def marked (form : MarkedForm) (t : Trail) : Trail :=
  let t := t.unmarked
  if isLetter t.part || (form = .pictograph && isJoinedPictograph t.part) then { t with form := some form }
  else { form := some form }

end Trail

namespace Width

/-- Whether a code point is that of a letter of the Tifinagh script which is joined with others. -/
def isTifinagh (n : Nat) : Bool := (0x2D31 ≤ n && n ≤ 0x2D65) || n = 0x2D6F

/-- Whether a code point is that of an Arabic alef. -/
def isAlef (n : Nat) : Bool :=
  inRanges [(0x622, 0x623), (0x625, 0x625), (0x627, 0x627), (0x671, 0x673), (0x675, 0x675), (0x773, 0x774),
    (0x870, 0x882)] n

/-- Whether a code point is that of an Arabic lam. -/
def isLam (n : Nat) : Bool :=
  inRanges [(0x644, 0x644), (0x6B5, 0x6B8), (0x76A, 0x76A), (0x8A6, 0x8A6), (0x8C7, 0x8C7)] n

/-- Whether a code point is that of a Khmer letter which has a form below the line. -/
def isSubscript (n : Nat) : Bool :=
  inRanges [(0x1780, 0x1782), (0x1784, 0x1787), (0x1789, 0x178C), (0x178E, 0x1793), (0x1795, 0x1798),
    (0x179B, 0x179D), (0x17A0, 0x17A0), (0x17A2, 0x17A2), (0x17A7, 0x17A7), (0x17AB, 0x17AC), (0x17AF, 0x17AF)] n

/-- Whether a code point is that of a mark without a form, which may stand between letters. -/
def isInserted (n : Nat) : Bool :=
  inRanges [(0x34F, 0x34F), (0x17B4, 0x17B5), (0x180B, 0x180D), (0x180F, 0x180F), (0xFE00, 0xFE0F),
    (0xE0100, 0xE01EF)] n

/-- Whether letters join across a code point. -/
def isCrossed (n : Nat) : Bool := inRanges flatRanges n && !inRanges partingRanges n

/-- The code point of the character that joins what stands around it. -/
def joiner : Nat := 0x200D

/-- Whether a code point is that of a colour of skin. -/
def isSkin (n : Nat) : Bool := 0x1F3FB ≤ n && n ≤ 0x1F3FF

/-- Whether a code point is that of one half of a flag. -/
def isFlagHalf (n : Nat) : Bool := 0x1F1E6 ≤ n && n ≤ 0x1F1FF

/-- Whether a code point is that of a character which a mark makes a sign. Ideographs keep their columns. -/
def isMadeSign (n : Nat) : Bool :=
  inRanges variedRanges n && inRanges pictographRanges n && !(0x1F200 ≤ n && n ≤ 0x1F2FF)

/-- The trail that a character makes by itself. -/
def trailOf (n : Nat) : Trail where
  part :=
    if isAlef n then .arabicAlef
    else if n = 0x5DC then .hebrewLamed
    else if n = 0x1A10 then .bugineseYa
    else if isTifinagh n then .tifinaghLetter
    else if n = 0xA4FC || n = 0xA4FD then .lisuTone
    else if n = 0x10C03 then .orkhonLetter
    else if isSubscript n then .khmerLetter
    else if n = 0x16D67 then .kiratRaiVowel
    else if n = 0x16D68 then .kiratRaiPair
    else if isSkin n then .skin
    else if isFlagHalf n then .flagHalf
    else if inRanges pictographRanges n then .pictograph
    else .nothing

/-- The columns that a character adds and the trail that it makes, if it is shown as one with the letters behind it. -/
def letterStep? (n : Nat) (t : Trail) : Option (Int × Trail) :=
  match t.part with
  | .arabicAlef => if isLam n then some (0, {}) else if isCrossed n then some (0, t) else none
  | .hebrewLamed => if t.isJoined && n = 0x5D0 then some (0, {}) else none
  | .bugineseYa => if t.isJoined && n = 0x1A17 then some (0, { part := .bugineseSyllable }) else none
  | .bugineseSyllable => if n = 0x1A15 then some (0, {}) else none
  | .tifinaghLetter =>
    if n = 0x2D7F then some (1, { part := .tifinaghPair })
    else if t.isJoined && isTifinagh n then some (0, {})
    else none
  | .tifinaghPair => if isTifinagh n then some (-1, {}) else none
  | .lisuTone => if 0xA4F8 ≤ n && n ≤ 0xA4FB then some (0, {}) else none
  | .orkhonLetter => if t.isJoined && n = 0x10C32 then some (0, {}) else none
  | .khmerLetter => if n = 0x17D2 then some (-1, {}) else none
  | .kiratRaiVowel =>
    if n = 0x16D63 || n = 0x16D69 then some (0, {})
    else if n = 0x16D67 then some (0, { part := .kiratRaiPair })
    else if n = 0x16D68 then some (1, { part := .kiratRaiVowel })
    else none
  | .kiratRaiPair => if n = 0x16D63 then some (0, {}) else none
  | _ => none

/-- Whether a tag of so many letters behind so many digits names a part of a country. -/
def isRegion (letters digits : Nat) : Bool := (digits = 0 && 3 ≤ letters && letters ≤ 6) || (digits = 3 && letters ≤ 3)

/-- The columns that a character adds and the trail that it makes before a tag, which belongs to a black flag. -/
def tagStep? (n letters digits : Nat) : Option (Int × Trail) :=
  if 0xE0061 ≤ n && n ≤ 0xE007A && digits = 0 then some (0, { part := .joinedTag (letters + 1) 0 })
  else if 0xE0030 ≤ n && n ≤ 0xE0039 then some (0, { part := .joinedTag letters (digits + 1) })
  else if n = 0x1F3F4 && isRegion letters digits then some (0, { part := .pictograph })
  else none

/-- The columns that a character adds and the trail that it makes, if it is shown as one with the pictographs behind
it. Each half of a flag counts one column; joined flags give their columns back. -/
def pictographStep? (n : Nat) (t : Trail) : Option (Int × Trail) :=
  match t.part with
  | .skin =>
    if inRanges skinRanges n then some (0, { part := .pictograph })
    else if n = joiner then some (0, { part := .joinedPictograph })
    else none
  | .flagHalf => if isFlagHalf n then some (1, { part := .flagHalves }) else none
  | .flagHalves =>
    if isFlagHalf n then some (1, { part := .flagHalves })
    else if n = joiner then some (0, { part := .joinedPictograph })
    else none
  | .pictograph => if n = joiner then some (0, { part := .joinedPictograph }) else none
  | .joinedPictograph =>
    if n = 0x20E3 then some (0, { part := .joinedKey })
    else if isFlagHalf n then some (1, { part := .joinedFlagHalf })
    else if isSkin n then some (0, { part := .skin })
    else if n = 0xE007F then some (0, { part := .joinedTag 0 0 })
    else if inRanges pictographRanges n then some (0, { part := .pictograph })
    else none
  | .joinedFlagHalf => if isFlagHalf n then some (-1, { part := .joinedFlag }) else none
  | .joinedFlag =>
    if isFlagHalf n then some (3, { part := .joinedFlagHalf })
    else if n = joiner then some (0, { part := .joinedPictograph })
    else none
  | .joinedTag letters digits => tagStep? n letters digits
  | _ => none

/-- The columns that a character adds before a trail, and the trail that the two make. -/
def step (c : Char) (t : Trail) : Int × Trail :=
  let n := c.toNat
  if t.form = some .pictograph && inRanges variedRanges n then
    (if Trail.isJoinedPictograph t.part then 0 else 2, { part := .pictograph })
  else if n ≤ 0xA0 then (1, {})
  else if n = 0xFE0F then (0, t.marked .pictograph)
  else if n = 0xFE0E then (0, t.marked .sign)
  else if t.form = some .sign && isMadeSign n then (1, {})
  else
    let t := t.unmarked
    if Trail.isLetter t.part && t.part ≠ .arabicAlef && n = joiner then (0, { t with isJoined := true })
    else if Trail.isLetter t.part && isInserted n then (0, t)
    else ((letterStep? n t) <|> (pictographStep? n t)).getD (charWidth c, trailOf n)

/-- The columns and the trail of a text that begins with a character, given those of the rest. -/
def prepend (c : Char) (rest : Int × Trail) : Int × Trail :=
  let (columns, trail) := step c rest.2
  (columns + rest.1, trail)

end Width

/-- The columns of a text. -/
def textWidth (s : List Char) : Nat := (s.foldr Width.prepend (0, {})).1.toNat

end FacetedSearch
