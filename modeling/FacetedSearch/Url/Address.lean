import FacetedSearch.Text.Cut
import FacetedSearch.Text.Hex

/-!
# Network addresses in text

An IPv4 address is written as one to four numbers, each in decimal, octal or hexadecimal; the last one fills all
bytes that are left. An IPv6 address has eight groups of hexadecimal digits, of which one run of zeros may be left
out, and may end in four decimal bytes.
-/

namespace FacetedSearch

namespace Ipv4

/-- The number that digits of a base write. -/
def digits? (base : Nat) (ds : List Char) : Option Nat :=
  ds.foldlM (fun n d =>
    match Hex.value? d with
    | some v => if v < base then some (base * n + v) else none
    | none => none) 0

/-- Reads a number; a leading zero means octal, a leading `0x` hexadecimal. -/
def number? : List Char → Option Nat
  | [] => none
  | '0' :: x :: ds => if x = 'x' || x = 'X' then digits? 16 ds else digits? 8 (x :: ds)
  | ds => digits? 10 ds

/-- The numbers between the points; one point may stand at the end. -/
def parts (s : List Char) : List (List Char) :=
  let ps := cutAt '.' s
  if ps.getLast? == some [] && 1 < ps.length then ps.dropLast else ps

/-- Whether a name is meant as an address: its last part is a number. -/
def isMeant (s : List Char) : Bool :=
  match (parts s).getLast? with
  | some p => !p.isEmpty && (p.all Char.isDigit || (number? p).isSome)
  | none => false

/-- Puts numbers into their bytes from the left; the last one fills the bytes that are left. -/
def assemble (left : Nat) : List Nat → Option Nat
  | [] => none
  | [n] => if n < Nat.pow 256 left then some n else none
  | n :: m :: ns =>
    if n < 256 then (assemble (left - 1) (m :: ns)).map (n * Nat.pow 256 (left - 1) + ·) else none

/-- Reads an address. -/
def parse? (s : List Char) : Option Nat := do
  let ps := parts s
  if 4 < ps.length then none
  assemble 4 (← ps.mapM number?)

/-- The text of an address: four decimal bytes. -/
def text (n : Nat) : String :=
  ".".intercalate ([n / 0x1000000, n / 0x10000 % 256, n / 256 % 256, n % 256].map toString)

end Ipv4

namespace Ipv6

/-- Reads a group of one to four hexadecimal digits. -/
def group? (ds : List Char) : Option Nat :=
  if ds.isEmpty || 4 < ds.length then none else Hex.number? ds

/-- Reads a decimal byte without leading zeros. -/
def byte? (ds : List Char) : Option Nat := do
  if ds.isEmpty || (1 < ds.length && ds.head? == some '0') then none
  let n ← Ipv4.digits? 10 ds
  if n < 256 then some n else none

/-- Reads four decimal bytes as two groups. -/
def dotted? (s : List Char) : Option (List Nat) := do
  match ← (cutAt '.' s).mapM byte? with
  | [a, b, c, d] => some [256 * a + b, 256 * c + d]
  | _ => none

/-- Reads the groups between colons; the last one may be dotted. -/
def groupList? : List (List Char) → Option (List Nat)
  | [] => some []
  | [g] => if g.contains '.' then dotted? g else (group? g).map ([·])
  | g :: h :: gs => do
    let n ← group? g
    let ns ← groupList? (h :: gs)
    pure (n :: ns)

/-- Reads groups that may be missing altogether. -/
def groups? (s : List Char) : Option (List Nat) :=
  if s.isEmpty then some [] else groupList? (cutAt ':' s)

/-- Cuts a text at the first pair of colons. -/
def cutAtGap : List Char → List Char × Option (List Char)
  | [] => ([], none)
  | ':' :: ':' :: s => ([], some s)
  | c :: s =>
    let (before, behind) := cutAtGap s
    (c :: before, behind)

/-- Reads the eight groups of an address. -/
def parse? (s : List Char) : Option (List Nat) := do
  match cutAtGap s with
  | (whole, none) =>
    let ns ← groups? whole
    if ns.length = 8 then some ns else none
  | (before, some behind) =>
    if before.contains '.' then none
    let ms ← groups? before
    let ns ← groups? behind
    if ms.length + ns.length < 8 then some (ms ++ List.replicate (8 - ms.length - ns.length) 0 ++ ns) else none

/-- The longest run of zeros, as its start and its length; of equally long ones the first. -/
def longestZeros (ns : List Nat) : Nat × Nat :=
  (List.range ns.length).foldl (fun (start, size) i =>
    let n := ((ns.drop i).takeWhile (· == 0)).length
    if size < n then (i, n) else (start, size)) (0, 0)

/-- Groups with colons between them. -/
def joinGroups (ns : List Nat) : String :=
  ":".intercalate (ns.map fun n => String.ofList (Nat.toDigits 16 n))

/-- The text of an address: the longest run of at least two zeros is left out. -/
def text (ns : List Nat) : String :=
  let (start, size) := longestZeros ns
  if size < 2 then joinGroups ns
  else joinGroups (ns.take start) ++ "::" ++ joinGroups (ns.drop (start + size))

end Ipv6

end FacetedSearch
