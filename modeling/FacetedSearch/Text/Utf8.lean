/-!
# UTF-8

The bytes of a text, and the text of bytes. Bytes that are no text are read as U+FFFD: one for each longest
beginning of a character that is cut short, and one for each byte that begins no character.
-/

namespace FacetedSearch

namespace Utf8

/-- The bytes of a character. -/
def encodeChar (c : Char) : List UInt8 :=
  let n := c.toNat
  if n < 0x80 then [.ofNat n]
  else if n < 0x800 then [.ofNat (0xC0 + n / 0x40), .ofNat (0x80 + n % 0x40)]
  else if n < 0x10000 then
    [.ofNat (0xE0 + n / 0x1000), .ofNat (0x80 + n / 0x40 % 0x40), .ofNat (0x80 + n % 0x40)]
  else
    [.ofNat (0xF0 + n / 0x40000), .ofNat (0x80 + n / 0x1000 % 0x40), .ofNat (0x80 + n / 0x40 % 0x40),
      .ofNat (0x80 + n % 0x40)]

/-- The bytes of a text. -/
def encode (s : List Char) : List UInt8 := s.flatMap encodeChar

/-- What stands for bytes that are no text. -/
def replacement : Char := '\uFFFD'

/-- How many bytes a character has that begins with this one; `0` for a byte that begins none. -/
def width (a : UInt8) : Nat :=
  let n := a.toNat
  if n < 0x80 then 1
  else if n < 0xC2 then 0
  else if n < 0xE0 then 2
  else if n < 0xF0 then 3
  else if n < 0xF5 then 4
  else 0

/-- Whether a byte continues a character. -/
def isTail (b : UInt8) : Bool := 0x80 ≤ b.toNat && b.toNat < 0xC0

/-- Whether a byte can be the second one of a character of three or four bytes that begins with `a`. -/
def isSecond (a b : UInt8) : Bool :=
  isTail b &&
    match a.toNat with
    | 0xE0 => 0xA0 ≤ b.toNat
    | 0xED => b.toNat < 0xA0
    | 0xF0 => 0x90 ≤ b.toNat
    | 0xF4 => b.toNat < 0x90
    | _ => true

/-- The six bits that a continuing byte holds. -/
def tailBits (b : UInt8) : Nat := b.toNat % 0x40

/-- The text of bytes. -/
def decode : List UInt8 → List Char
  | [] => []
  | a :: s =>
    match width a, s with
    | 1, s => Char.ofNat a.toNat :: decode s
    | 2, b :: t =>
      if isTail b then Char.ofNat (a.toNat % 0x20 * 0x40 + tailBits b) :: decode t
      else replacement :: decode (b :: t)
    | 3, b :: t =>
      if isSecond a b then
        match t with
        | c :: u =>
          if isTail c then
            Char.ofNat ((a.toNat % 0x10 * 0x40 + tailBits b) * 0x40 + tailBits c) :: decode u
          else replacement :: decode (c :: u)
        | [] => [replacement]
      else replacement :: decode (b :: t)
    | 4, b :: t =>
      if isSecond a b then
        match t with
        | c :: u =>
          if isTail c then
            match u with
            | d :: v =>
              if isTail d then
                Char.ofNat (((a.toNat % 8 * 0x40 + tailBits b) * 0x40 + tailBits c) * 0x40 + tailBits d) :: decode v
              else replacement :: decode (d :: v)
            | [] => [replacement]
          else replacement :: decode (c :: u)
        | [] => [replacement]
      else replacement :: decode (b :: t)
    | _, s => replacement :: decode s

end Utf8

end FacetedSearch
