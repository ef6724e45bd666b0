import FacetedSearch.Text.Invisible

/-!
# Quoted text for display

A text is shown between double quotes. Quotes, backslashes, tabs and line ends are escaped by a letter, and
characters without a printed form by their code point in braces.
-/

namespace FacetedSearch

/-- A character as it is shown between quotes. -/
def showChar (c : Char) : List Char :=
  if c = '\x00' then ['\\', '0']
  else if c = '\t' then ['\\', 't']
  else if c = '\r' then ['\\', 'r']
  else if c = '\n' then ['\\', 'n']
  else if c = '"' then ['\\', '"']
  else if c = '\\' then ['\\', '\\']
  else if isInvisible c then '\\' :: 'u' :: '\x7b' :: Nat.toDigits 16 c.toNat ++ ['\x7d']
  else [c]

/-- A text between double quotes, with everything escaped that would not show. -/
def showQuoted (s : String) : String :=
  "\"" ++ String.ofList (s.toList.flatMap showChar) ++ "\""

end FacetedSearch
