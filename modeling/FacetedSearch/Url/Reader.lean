import FacetedSearch.Url.Basic

/-!
# Reading addresses

`Url.parse` reads a whole address. Blanks and control characters around it are dropped, and so are tabs and line ends
within it. Steps to the same or the upper directory are taken while the path is read. Addresses of the web and of
files allow backslashes for slashes, and have their host brought into its normal form.
-/

namespace FacetedSearch

namespace Url

/-- What is dropped at the ends of an address. -/
def isPadding (c : Char) : Bool := c.toNat ≤ 0x20

/-- What is dropped everywhere in an address. -/
def isBreak (c : Char) : Bool := c = '\t' || c = '\n' || c = '\r'

/-- An address without its padding. -/
def trim (s : List Char) : List Char := ((s.dropWhile isPadding).reverse.dropWhile isPadding).reverse

/-- Whether a break stands right behind the first characters that count, of which the first argument tells the
number. -/
def isBreakBehind : Nat → List Char → Bool
  | _, [] => false
  | 0, c :: _ => isBreak c
  | n + 1, c :: s => isBreakBehind (if isBreak c then n + 1 else n) s

/-- Whether a break stands right before the last `n` characters that count. -/
def isBreakBefore (n : Nat) (s : List Char) : Bool := isBreakBehind n s.reverse

/-- Whether a character can stand in a scheme. -/
def isSchemeChar (c : Char) : Bool := c.isAlphanum || c = '+' || c = '-' || c = '.'

/-- Cuts off the scheme and the colon behind it. -/
def splitScheme? : List Char → Option (String × List Char)
  | [] => none
  | c :: s =>
    if c.isAlpha then
      match s.dropWhile isSchemeChar with
      | ':' :: rest => some (String.ofList ((c :: s.takeWhile isSchemeChar).map Char.toLower), rest)
      | _ => none
    else none

/-- Whether a character separates names in a path. -/
def isSlash (web : Bool) (c : Char) : Bool := c = '/' || (web && c = '\\')

/-- Whether a character begins a query or a fragment. -/
def isMark (c : Char) : Bool := c = '?' || c = '#'

/-- A name in which escaped points are read as points, to recognize steps. -/
def unescapePoints : List Char → List Char
  | '%' :: '2' :: e :: s => if e = 'e' || e = 'E' then '.' :: unescapePoints s else '%' :: '2' :: e :: unescapePoints s
  | c :: s => c :: unescapePoints s
  | [] => []

/-- Whether a name is a step to the same directory. -/
def isStay (s : List Char) : Bool := unescapePoints s == ['.']

/-- Whether a name is a step to the upper directory. -/
def isUp (s : List Char) : Bool := unescapePoints s == ['.', '.']

/-- Whether a name is a drive letter. -/
def isDrive : List Char → Bool
  | [c, d] => c.isAlpha && (d = ':' || d = '|')
  | _ => false

/-- Whether a name is not left for the upper directory: a drive, also one with a backslash behind it. -/
def isKept : List Char → Bool
  | c :: d :: '\\' :: _ => isDrive [c, d]
  | n => isDrive n

/-- Goes to the upper directory. The names are given last one first. -/
def leave : List (List Char) → List (List Char)
  | [] => []
  | n :: ns => if isKept n then n :: ns else ns

/-- Enters a directory. A drive at the start of a path of files is written with a colon. -/
def enter (files : Bool) (before : List (List Char)) (n : List Char) : List (List Char) :=
  match n with
  | [c, d] => if files && before.isEmpty && isDrive [c, d] then [[c, ':']] else [c, d] :: before
  | n => n :: before

/-- Takes the steps in a path. The names before are given last one first. -/
def walk (files : Bool) (before : List (List Char)) : List (List Char) → List (List Char)
  | [] => before.reverse
  | [n] =>
    if isUp n then ([] :: leave before).reverse
    else if isStay n then ([] :: before).reverse
    else (enter files before n).reverse
  | n :: m :: ns =>
    if isUp n then walk files (leave before) (m :: ns)
    else if isStay n then walk files before (m :: ns)
    else walk files (enter files before n) (m :: ns)

/-- Drops empty names from the front as long as a name is left. -/
def dropEmptyNames : List (List Char) → List (List Char)
  | [] :: n :: ns => dropEmptyNames (n :: ns)
  | ns => ns

/-- The written names in a path that begins behind its first slash, with the steps among them. -/
def splitNames (web : Bool) (s : List Char) : List (List Char) :=
  (cutWhere (isSlash web) s).map (Percent.encode Percent.inPath)

/-- The names of a path that begins behind its first slash. -/
def readNames (web : Bool) (s : List Char) : List (List Char) := walk false [] (splitNames web s)

/-- A path of names. -/
def namesPath (ns : List (List Char)) : UrlPath := .names (ns.map String.ofList)

/-- The fragment that a text begins with. -/
def readFragment : List Char → Option String
  | '#' :: s => some (String.ofList (Percent.encode Percent.inFragment s))
  | _ => none

/-- The query that a text begins with. -/
def readQuery (web : Bool) : List Char → Option String
  | '?' :: s =>
    let escaped := if web then Percent.inWebQuery else Percent.inQuery
    some (String.ofList (Percent.encode escaped (s.takeWhile (· != '#'))))
  | _ => none

/-- An address whose path ends where the rest, a query or a fragment, begins. -/
def finish (scheme : String) (authority : Option Authority) (path : UrlPath) (rest : List Char) : Url where
  scheme
  authority
  path
  query := readQuery (isWebScheme scheme) rest
  fragment := readFragment (rest.dropWhile (· != '#'))

/-- Cuts a text at the last occurrence of a character. -/
def cutAtLast? (c : Char) (s : List Char) : Option (List Char × List Char) :=
  let behind := (s.reverse.takeWhile (· != c)).reverse
  if behind.length = s.length then none else some (s.take (s.length - behind.length - 1), behind)

/-- Whether a character ends an authority. -/
def endsAuthority (web : Bool) (c : Char) : Bool := isSlash web c || isMark c

/-- A user and a password in their written form. -/
def readUser (s : List Char) : Authority where
  user := String.ofList (Percent.encode Percent.inUser (s.takeWhile (· != ':')))
  password := String.ofList (Percent.encode Percent.inUser ((s.dropWhile (· != ':')).drop 1))

/-- Cuts off the host; a colon ends it outside of brackets. -/
def splitHost (web inside : Bool) : List Char → List Char × List Char
  | [] => ([], [])
  | c :: s =>
    if endsAuthority web c || (c = ':' && !inside) then ([], c :: s)
    else
      let (host, rest) := splitHost web (c = '[' || (inside && c != ']')) s
      (c :: host, rest)

/-- Reads a port, which ends before a slash or a mark. The default port is not kept. -/
def readPort (scheme : String) (s : List Char) : Except UrlFault (Option Nat × List Char) :=
  let ds := s.takeWhile Char.isDigit
  let rest := s.dropWhile Char.isDigit
  let n := ds.foldl (fun n d => 10 * n + (d.toNat - '0'.toNat)) 0
  if 65535 < n then .error .invalidPort
  else if (rest.head?.map (endsAuthority true)).getD true then
    .ok (if ds.isEmpty || defaultPort? scheme == some n then none else some n, rest)
  else .error .invalidPort

/-- Reads the user and the password, if there are any, and returns what stands behind them. -/
def readUserInfo (web : Bool) (s : List Char) : Except UrlFault (Authority × List Char) :=
  let part := s.takeWhile (!endsAuthority web ·)
  match cutAtLast? '@' part with
  | none => .ok ({}, s)
  | some (user, host) =>
    let rest := host ++ s.dropWhile (!endsAuthority web ·)
    if user.isEmpty && host.isEmpty && !rest.isEmpty then .error .emptyHost
    else .ok (readUser user, rest)

/-- Reads an authority, which begins behind its two slashes. -/
def readAuthority (scheme : String) (s : List Char) : Except UrlFault (Authority × List Char) := do
  let web := isWebScheme scheme
  let (user, s) ← readUserInfo web s
  let (name, rest) := splitHost web false s
  if web && name.isEmpty then .error .emptyHost
  let host ← if web then Host.parseDomain name else Host.parseOther name
  let named := user.user != "" || user.password != ""
  match rest with
  | ':' :: rest =>
    if name.isEmpty then .error .emptyHost
    let (port, rest) ← readPort scheme rest
    pure ({ user with host, port }, rest)
  | rest =>
    if name.isEmpty && named then .error .emptyHost
    else pure ({ user with host }, rest)

/-- Reads what follows an authority. -/
def readAfterAuthority (scheme : String) (a : Authority) (s : List Char) : Url :=
  let web := isWebScheme scheme
  let path := s.takeWhile (!isMark ·)
  let rest := s.dropWhile (!isMark ·)
  let names := match path with
    | [] => if web then [[]] else []
    | c :: p => if isSlash web c then readNames web p else readNames web (c :: p)
  finish scheme (some a) (namesPath names) rest

/-- A file's host, and the rest of its address from the first name of its path on. Without a host, a slash behind its
place is part of the path already. -/
def readFileHost (s : List Char) : Except UrlFault (Host × List Char) := do
  let name := s.takeWhile (!endsAuthority true ·)
  if name.isEmpty || isDrive name then pure (.empty, s)
  else
    let host ← Host.parseDomain name
    let rest := s.dropWhile (!endsAuthority true ·)
    if host = .name "localhost" then pure (.empty, rest)
    else
      match rest with
      | c :: p => pure (host, if isSlash true c then p else c :: p)
      | [] => pure (host, [])

/-- The names of the path of a file, and whether they begin with a drive, which takes the place of the host. A break
behind the drive at the start ends that name, and what follows it is a name whatever it looks like. -/
def readFileNames (isCut : Bool) (s : List Char) : List (List Char) × Bool :=
  match isCut, splitNames true s with
  | true, (c :: ':' :: n :: name) :: ns =>
    if c.isAlpha then (walk true [n :: name, [c, ':']] ns, false)
    else (walk true [] ((c :: ':' :: n :: name) :: ns), false)
  | _, ns =>
    let names := walk true [] ns
    (names, names.head?.any isDrive)

/-- Reads what follows the scheme of a file address. The first argument tells whether a break stood right before the
last characters of the address, given their number. -/
def readFile (isCutBefore : Nat → Bool) (s : List Char) : Except UrlFault Url := do
  let (host, s) ← match s with
    | a :: b :: s =>
      if isSlash true a && isSlash true b then readFileHost s
      else pure (Host.empty, if isSlash true a then b :: s else a :: b :: s)
    | [a] => pure (Host.empty, if isSlash true a then [] else [a])
    | [] => pure (Host.empty, [])
  let (names, onDrive) := readFileNames (isCutBefore (s.length - 2)) (s.takeWhile (!isMark ·))
  let host := if onDrive then Host.empty else host
  pure (finish "file" (some { host }) (namesPath (dropEmptyNames names)) (s.dropWhile (!isMark ·)))

/-- Reads what follows the scheme of an address that is neither of the web nor of files. -/
def readOther (scheme : String) : List Char → Except UrlFault Url
  | '/' :: '/' :: s => do
    let (a, rest) ← readAuthority scheme s
    pure (readAfterAuthority scheme a rest)
  | '/' :: s =>
    .ok (finish scheme none (namesPath (readNames false (s.takeWhile (!isMark ·)))) (s.dropWhile (!isMark ·)))
  | s =>
    let path := Percent.encode Percent.isControl (s.takeWhile (!isMark ·))
    .ok (finish scheme none (.plain (String.ofList path)) (s.dropWhile (!isMark ·)))

/-- Reads an address. -/
def parse (text : String) : Except UrlFault Url :=
  let raw := trim text.toList
  match splitScheme? (raw.filter (!isBreak ·)) with
  | none => .error .noScheme
  | some (scheme, s) =>
    if scheme = "file" then readFile (isBreakBefore · raw) s
    else if isWebScheme scheme then do
      let (a, rest) ← readAuthority scheme (s.dropWhile (isSlash true))
      pure (readAfterAuthority scheme a rest)
    else readOther scheme s

end Url

end FacetedSearch
