import FacetedSearch.CommandLine.Flags
import FacetedSearch.Selection.State
import FacetedSearch.Text.Word64

/-!
# Commands of the command line

Each command has a record of what its flags say. Selections are given as `key=value`, ranges as `field=low..high`, and
sort keys as `field`, `field:asc` or `field:desc`.

* `Invocation.parse`: the command that a list of arguments calls.
-/

namespace FacetedSearch

/-- Cuts a text at the first occurrence of a separator, which is dropped. -/
def splitFirst? (sep : List Char) : List Char → Option (List Char × List Char)
  | [] => none
  | c :: s =>
    if sep.isPrefixOf (c :: s) then some ([], (c :: s).drop sep.length)
    else (splitFirst? sep s).map fun (before, behind) => (c :: before, behind)

/-- Reads `key=value`. -/
def readFilter (text : String) : Except String (String × String) :=
  match splitFirst? ['='] text.toList with
  | none => .error ("expected key=value, got '" ++ text ++ "'")
  | some ([], _) => .error ("empty key in '" ++ text ++ "'")
  | some (key, value) => .ok (String.ofList key, String.ofList value)

/-- A field and the bounds on its values. -/
structure RangeFlag where
  field : String
  low : String
  high : String
  deriving DecidableEq

/-- Reads `field=low..high`. -/
def readRange (text : String) : Except String RangeFlag :=
  match splitFirst? ['='] text.toList with
  | none => .error ("expected field=low..high, got '" ++ text ++ "'")
  | some (field, bounds) =>
    match splitFirst? ['.', '.'] bounds with
    | none => .error ("expected low..high, got '" ++ String.ofList bounds ++ "'")
    | some (low, high) => .ok ⟨String.ofList field, String.ofList low, String.ofList high⟩

/-- A field and what stands behind its last colon. -/
def splitDirection (s : List Char) : List Char × Option (List Char) :=
  let behind := (s.reverse.takeWhile (· != ':')).reverse
  if behind.length = s.length then (s, none) else (s.take (s.length - behind.length - 1), some behind)

/-- Reads a sort key. -/
def readSortFlag (text : String) : Except String SortKey := do
  let (field, direction) := splitDirection text.toList
  let direction ← match direction with
    | none => pure Direction.asc
    | some d =>
      match Direction.ofName? (String.ofList d) with
      | some d => pure d
      | none => .error ("unknown sort direction '" ++ String.ofList d ++ "'")
  if field.isEmpty then .error "empty sort field" else pure ⟨String.ofList field, direction⟩

/-- Reads an unsigned 64-bit integer. -/
def readCount (text : String) : Except String Nat := (readWord text).mapError WordFault.message

/-- What the flags say about the selection. -/
structure SelectionFlags where
  source : Option String := none
  query : Option String := none
  field : Option String := none
  filters : List (String × String) := []
  orKeys : List String := []
  ranges : List RangeFlag := []
  sort : List SortKey := []
  offset : Option Nat := none
  size : Option Nat := none
  deriving DecidableEq

namespace SelectionFlags

/-- The flags that build a selection. -/
def flags : List (Flag SelectionFlags) := [
  { name := "source", value := some "SOURCE", set := fun v r => .ok { r with source := some v } },
  { name := "query", letter := some 'q', value := some "QUERY", set := fun v r => .ok { r with query := some v } },
  { name := "field", value := some "FIELD", set := fun v r => .ok { r with field := some v } },
  { name := "filter", letter := some 'f', value := some "FILTERS", repeats := true,
    set := fun v r => (readFilter v).map fun x => { r with filters := r.filters ++ [x] } },
  { name := "or", value := some "OR_KEYS", repeats := true,
    set := fun v r => .ok { r with orKeys := r.orKeys ++ [v] } },
  { name := "range", value := some "RANGES", repeats := true,
    set := fun v r => (readRange v).map fun x => { r with ranges := r.ranges ++ [x] } },
  { name := "sort", value := some "SORT", repeats := true,
    set := fun v r => (readSortFlag v).map fun x => { r with sort := r.sort ++ [x] } },
  { name := "from", value := some "FROM", set := fun v r => (readCount v).map fun n => { r with offset := some n } },
  { name := "size", value := some "SIZE", set := fun v r => (readCount v).map fun n => { r with size := some n } }]

end SelectionFlags

/-- What is asked of `init`: the file of the home directory, and to write over a file. -/
structure InitFlags where
  home : Bool := false
  force : Bool := false
  deriving DecidableEq

/-- What is asked of `compile`: a selection, and a link instead of the document. -/
structure CompileFlags where
  selection : SelectionFlags := {}
  share : Option String := none
  deriving DecidableEq

/-- What is asked of `decompile`: a source, and JSON instead of tables. -/
structure DecompileFlags where
  source : String := ""
  json : Bool := false
  deriving DecidableEq

/-- What is asked of `search`: a selection, all values of every facet, and JSON instead of tables. -/
structure SearchFlags where
  selection : SelectionFlags := {}
  allValues : Bool := false
  json : Bool := false
  deriving DecidableEq

/-- A call of a command. -/
inductive Invocation
  | init (flags : InitFlags)
  | check
  | config
  | compile (flags : CompileFlags)
  | decompile (flags : DecompileFlags)
  | search (flags : SearchFlags)
  deriving DecidableEq

namespace Invocation

/-- What `init` takes. -/
def initUsage : Usage InitFlags where
  flags := [
    { name := "global", set := fun _ r => .ok { r with home := true } },
    { name := "force", set := fun _ r => .ok { r with force := true } }]

/-- What `compile` takes. -/
def compileUsage : Usage CompileFlags where
  flags := SelectionFlags.flags.map (·.within (·.selection) fun s r => { r with selection := s }) ++ [
    { name := "share", value := some "BASE_URL", set := fun v r => .ok { r with share := some v } }]

/-- What `decompile` takes. -/
def decompileUsage : Usage DecompileFlags where
  flags := [{ name := "json", set := fun _ r => .ok { r with json := true } }]
  plain := some { name := "SOURCE", set := fun v r => .ok { r with source := v } }

/-- What `search` takes. -/
def searchUsage : Usage SearchFlags where
  flags := SelectionFlags.flags.map (·.within (·.selection) fun s r => { r with selection := s }) ++ [
    { name := "all-values", set := fun _ r => .ok { r with allValues := true } },
    { name := "json", set := fun _ r => .ok { r with json := true } }]

/-- Commands that take nothing. -/
def bareUsage : Usage Unit where
  flags := []

/-- Reads the arguments behind the name of a command. -/
def ofName (name : String) (args : List String) : Except UsageFault Invocation :=
  match name with
  | "init" => (readArguments initUsage {} args).map .init
  | "check" => (readArguments bareUsage () args).map fun _ => .check
  | "config" => (readArguments bareUsage () args).map fun _ => .config
  | "compile" => (readArguments compileUsage {} args).map .compile
  | "decompile" => (readArguments decompileUsage {} args).map .decompile
  | "search" => (readArguments searchUsage {} args).map .search
  | "help" => .error .help
  | _ => .error (.unknownCommand name)

/-- Reads arguments: flags for all commands, the name of a command, and its own arguments. -/
def parse : List String → Except UsageFault Invocation
  | [] => .error .noCommand
  | a :: as =>
    match a.toList with
    | '-' :: '-' :: s => do
      let _ ← Given.callName [.verbose, .help] { record := () } s
      parse as
    | '-' :: c :: cs => do
      let _ ← Given.callLetters [.verbose, .help] { record := () } (c :: cs)
      parse as
    | _ => ofName a as

end Invocation

end FacetedSearch
