import FacetedSearch.Text.Cut

/-!
# Paths

Absolute and relative paths as text, with slashes between their parts.  The same path has several spellings: slashes
may be repeated or stand at the end, and a point between slashes leads nowhere.

* `Path.names`: the names on a path;
* `Path.same`: whether two texts spell the same path;
* `Path.parent?`: the directory that holds a path;
* `Path.ancestors`: a path and all directories above it, nearest first.
-/

namespace FacetedSearch

namespace Path

/-- Whether a part of a path leads to another directory. -/
def isStep (part : List Char) : Bool := !part.isEmpty && part != ['.']

/-- The names on a path, from the outside in. The point that a relative path begins with is kept. -/
def names (p : String) : List (List Char) :=
  match cutAt '/' p.toList with
  | ['.'] :: parts => ['.'] :: parts.filter isStep
  | parts => parts.filter isStep

/-- Whether a path starts at the root. -/
def isAbsolute (p : String) : Bool := p.toList.head? == some '/'

/-- Whether two texts spell the same path. -/
def same (p q : String) : Bool := isAbsolute p == isAbsolute q && names p == names q

/-- Drops slashes and steps to the same directory from the end of a path, which is given from its end to its
start. -/
def dropTail : List Char → List Char
  | '.' :: '/' :: r => dropTail ('/' :: r)
  | '/' :: c :: r => dropTail (c :: r)
  | r => r

/-- The part of a path above its last name, both given from end to start. -/
def parentReversed (r : List Char) : Option (List Char) :=
  match dropTail r with
  | [] => none
  | ['/'] => none
  | r => some (dropTail (r.dropWhile (· != '/')))

/-- The directory that holds a path; neither the root nor the empty path has one. -/
def parent? (p : String) : Option String :=
  (parentReversed p.toList.reverse).map fun r => String.ofList r.reverse

/-- A path and the directories above it. The first argument bounds their number. -/
def ancestorsReversed : Nat → List Char → List (List Char)
  | 0, r => [r]
  | n + 1, r =>
    match parentReversed r with
    | some q => r :: ancestorsReversed n q
    | none => [r]

/-- A path and all directories above it, nearest first. -/
def ancestors (p : String) : List String :=
  (ancestorsReversed p.length p.toList.reverse).map fun r => String.ofList r.reverse

/-- A name inside a directory; an absolute name stands for itself. -/
def join (dir name : String) : String :=
  if name.toList.head? == some '/' || dir.isEmpty then name
  else if dir.toList.getLast? == some '/' then dir ++ name
  else dir ++ "/" ++ name

end Path

end FacetedSearch
