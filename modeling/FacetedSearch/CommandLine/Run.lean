import FacetedSearch.CommandLine.Basic
import FacetedSearch.CommandLine.Display
import FacetedSearch.Config.Discovery
import FacetedSearch.Config.Settings
import FacetedSearch.Config.Template
import FacetedSearch.Config.Warning
import FacetedSearch.ViewRecord

/-!
# Running commands

What a command does depends on its call, on the settings files around the working directory, and on the answer of the
backend. `Invocation.run` says it without doing anything: either a command ends with a report, or it has a request
to send and says how it ends with every answer.
-/

namespace FacetedSearch

/-- Where a command is called: the files, the working directory, and the home directory, if there is one. -/
structure Surroundings where
  files : FileTree
  cwd : String
  home : Option String

/-- How a command ends: its exit code, what it prints, what it complains about, and the files it writes. -/
structure Report where
  code : Nat := 0
  out : String := ""
  err : String := ""
  written : List (String × String) := []
  deriving DecidableEq

/-- Lines as a text. -/
def textOfLines (lines : List String) : String := String.join (lines.map (· ++ "\n"))

namespace Report

/-- A success with lines of output. -/
def success (lines : List String) : Report := { out := textOfLines lines }

/-- A failure with a complaint. -/
def failure (message : String) : Report := { code := 1, err := textOfLines ["error: " ++ message] }

/-- A wrong call. -/
def usage (fault : UsageFault) : Report :=
  match fault with
  | .help => success ["Usage: facet [--verbose] <init|check|config|compile|decompile|search> [flags]"]
  | fault => { code := 2, err := textOfLines ["error: " ++ fault.message] }

end Report

/-- What a command does: it ends, or it asks the backend and ends with the answer, a status and a body. -/
inductive Action
  | finish (report : Report)
  | ask (request : Request) (answered : Nat → String → Report)

/-- The settings file that `init` writes. -/
def initPath? (s : Surroundings) (f : InitFlags) : Option String :=
  (if f.home then s.home else some s.cwd).map settingsPath

/-- Writes the template of a settings file. -/
def runInit (s : Surroundings) (f : InitFlags) : Report :=
  match initPath? s f with
  | none => .failure "could not determine home directory"
  | some path =>
    if s.files.exists? path && !f.force then
      { code := 1
        err := textOfLines ["error: configuration file already exists: " ++ path, "use --force to overwrite"] }
    else if s.files.isDir path then .failure ("failed to write " ++ path)
    else
      { out := "Created " ++ path ++ "\n\nConfiguration written:\n" ++ settingsTemplate ++
          "\nUncomment the sections you need, then run 'facet check'.\n"
        written := [(path, settingsTemplate)] }

/-- The line about a facet: its label, and in brackets its field, kind, order, operator and nested prefix. -/
def facetLine (c : Config) (f : Facet) : String :=
  let kind := if (c.hierarchy? f.field).isSome then "tree" else "list"
  let scope := match c.nestedPrefix f.field with
    | some p => ", nested in " ++ p
    | none => ""
  "  " ++ f.label ++ " (" ++ f.field ++ ", " ++ kind ++ ", " ++ f.order.name ++ ", " ++ f.operator.name ++
    scope ++ ")"

/-- What can be done about a warning. -/
def ConfigWarning.hint? : ConfigWarning → Option String
  | .noFacets => some "Add [[facet]] entries to define facets."
  | .noBackend => some "Set [backend] url to enable 'facet search'."
  | .unusedPrefix _ => some "Remove unused nested prefixes, or add facets under them."
  | .emptySortField _ => some "Give every [results] sort option a field."
  | .twoProjections => some "Set only one of [results] fields and partial_fields."
  | .noDisplay _ => none

/-- The hints about warnings, each one once, in alphabetical order. -/
def hintLines (ws : List ConfigWarning) : List String :=
  match SearchState.dropRepeats ((ws.filterMap ConfigWarning.hint?).mergeSort (· ≤ ·)) with
  | [] => []
  | hints => "Hints:" :: hints.map ("  - " ++ ·)

/-- The lines about a configuration that could be loaded. -/
def checkLines (c : Config) : List String :=
  let facets := if c.facets.isEmpty then ["  (none defined)"] else c.facets.map (facetLine c)
  let filters := if c.filters.isEmpty then []
    else "Predefined filters:" :: c.filters.names.map ("  " ++ ·) ++ [""]
  let warnings := match c.warnings with
    | [] => ["No issues found."]
    | ws => ("Warnings (" ++ toString ws.length ++ "):") :: ws.map ("  - " ++ ·.message) ++ "" :: hintLines ws
  "Facets:" :: facets ++ "" :: filters ++ warnings

/-- Looks through the settings files. Only a configuration that cannot be loaded is a failure. -/
def runCheck (s : Surroundings) : Report :=
  let head := ["Checking configuration...", ""]
  match discover s.files s.cwd s.home with
  | [] => .success (head ++ ["No configuration files found.", "",
      "Run 'facet init' to create a configuration file."])
  | paths =>
    let head := head ++ "Config files (highest precedence first):" :: paths.map ("  " ++ ·) ++ [""]
    match Config.load s.files s.cwd s.home with
    | .ok c => .success (head ++ checkLines c)
    | .error e => { code := 1, out := textOfLines head, err := textOfLines ["error: " ++ e.message] }

/-- The commands of ranges, which have to be on facets. -/
def rangeCommands (c : Config) : List RangeFlag → Except String (List Command)
  | [] => .ok []
  | r :: rs =>
    match c.facetIndex? r.field with
    | none => .error ("range field '" ++ r.field ++ "' is not a configured facet")
    | some i => (rangeCommands c rs).map (.setRange i r.low r.high :: ·)

/-- The command of a filter: its key is combined by OR if a flag says so, and else as the state and the facet say. -/
def filterCommand (orKeys : List String) (f : String × String) : Command :=
  .addSelection f.1 (.ofText f.2) (if orKeys.contains f.1 then some .or else none)

/-- The commands of the selection flags. The page comes last, since the others go back to the start. -/
def selectionCommands (c : Config) (f : SelectionFlags) : Except String (List Command) := do
  let ranges ← rangeCommands c f.ranges
  pure ((f.field.map fun x => Command.setSearchField (some x)).toList ++ (f.query.map .setFreeText).toList ++
    f.filters.map (filterCommand f.orKeys) ++ ranges ++ (if f.sort.isEmpty then [] else [.setSort f.sort]) ++
    (f.size.map .setPageSize).toList ++ (f.offset.map .setPage).toList)

/-- The session of the selection flags: that of the source, changed by the other flags. -/
def buildSession (c : Config) (f : SelectionFlags) : Except String Session := do
  let cmds ← selectionCommands c f
  let start := match f.source with
    | some source => Session.opened c source
    | none => Session.new c
  pure (start.dispatchAll cmds)

/-- Prints the document of a selection, or a link that carries it. -/
def runCompile (c : Config) (f : CompileFlags) : Report :=
  match buildSession c f.selection, f.share with
  | .error e, _ => .failure e
  | .ok s, none => .success [s.compile.toJson.pretty]
  | .ok s, some base =>
    match s.share base with
    | .ok url => .success [url.text]
    | .error fault => .failure fault.message

/-- Prints what the document in a link selects. -/
def runDecompile (c : Config) (f : DecompileFlags) : Report :=
  match documentOf f.source with
  | .error fault => .failure fault.message
  | .ok d =>
    let cmds := c.recoverJson d.toJson
    let state := ((Session.new c).dispatchAll cmds).state
    if f.json then
      .success [(Json.obj [("commands", .arr (cmds.map Command.toRecord)), ("state", state.toRecord)]).pretty]
    else .success (stateLines c state)

/-- The results of a session for programs. -/
def resultsRecord (s : Session) (r : Results) : Json := .obj [
  ("query", s.compile.toJson), ("pagination", r.pagination.toRecord), ("records", .arr r.records),
  ("facets", .arr (s.views.map FacetView.toRecord))]

/-- The lines about the results of a session. -/
def resultLines (s : Session) (r : Results) (allValues : Bool) : List String :=
  recordLines s.config r.records ++ pageLines r.pagination ++
    s.views.flatMap (viewLines s.config allValues)

/-- How a search ends with an outcome. -/
def reportSearch (s : Session) (t : Ticket) (f : SearchFlags) (o : Outcome) : Report :=
  let s := (s.complete t o).1
  match s.status, s.results with
  | .failed message, _ => .failure message
  | _, none => .failure "search returned no results"
  | _, some r => if f.json then .success [(resultsRecord s r).pretty] else .success (resultLines s r f.allValues)

/-- Searches with a selection. -/
def runSearch (c : Config) (f : SearchFlags) : Action :=
  if c.backend.url.isNone then
    .finish { code := 1, err := textOfLines ["error: no backend url configured",
      "Set [backend] url in .facet.toml, or run 'facet init' to create one."] }
  else
    match buildSession c f.selection, Endpoint.ofSettings c.backend with
    | .error e, _ => .finish (.failure e)
    | .ok _, .error fault => .finish (.failure fault.message)
    | .ok s, .ok endpoint =>
      let (s, t) := s.beginSearch
      .ask (endpoint.request t.document) fun status body => reportSearch s t f (readReply status body)

namespace Invocation

/-- What a command does that needs the configuration. -/
def runWith (c : Config) : Invocation → Action
  | .compile f => .finish (runCompile c f)
  | .decompile f => .finish (runDecompile c f)
  | .search f => runSearch c f
  | _ => .finish { out := c.settingsText }

/-- What a command does. -/
def run (s : Surroundings) : Invocation → Action
  | .init f => .finish (runInit s f)
  | .check => .finish (runCheck s)
  | command =>
    match Config.load s.files s.cwd s.home with
    | .ok c => command.runWith c
    | .error e => .finish (.failure ("failed to load configuration: " ++ e.message))

end Invocation

/-- What a call with some arguments does. -/
def runArguments (s : Surroundings) (args : List String) : Action :=
  match Invocation.parse args with
  | .ok command => command.run s
  | .error fault => .finish (.usage fault)

end FacetedSearch
