import FacetedSearch.Config.Merge

/-!
# Finding settings files

Settings files are looked for in the working directory and all directories above it, nearest first. A file that says
it is the root ends the search; otherwise the file of the home directory comes last, unless it was met before. Paths are
compared by their names, not by their spelling.

* `discover_stop`: after a root file nothing else is listed.
-/

namespace FacetedSearch

/-- Files and directories. A file without text holds bytes that are no text. -/
structure FileTree where
  files : Entries (Option String) := []
  dirs : List String := []

namespace FileTree

/-- What is known of a file: its text, if it holds one. Files are looked up by their paths, however these are
spelled. -/
def file? (t : FileTree) (path : String) : Option (Option String) :=
  (t.files.find? fun e => Path.same e.1 path).map Prod.snd

theorem file?_eq_of_same (t : FileTree) {p q : String} (h : Path.same p q = true) : t.file? p = t.file? q := by
  rw [Path.same, Bool.and_eq_true, beq_iff_eq, beq_iff_eq] at h
  unfold file? Path.same
  rw [h.1, h.2]

/-- Whether a path is a file. -/
def isFile (t : FileTree) (path : String) : Bool := (t.file? path).isSome

/-- Whether a path is a directory. -/
def isDir (t : FileTree) (path : String) : Bool := t.dirs.any (Path.same · path)

/-- Whether something stands at a path. -/
def exists? (t : FileTree) (path : String) : Bool := t.isFile path || t.isDir path

/-- The text of a file. -/
def text? (t : FileTree) (path : String) : Option String := (t.file? path).join

/-- Gives a file a text. -/
def write (t : FileTree) (path text : String) : FileTree :=
  { t with files := (path, some text) :: t.files.filter fun e => !Path.same e.1 path }

end FileTree

/-- The name of settings files. -/
def settingsName : String := ".facet.toml"

/-- The settings file of a directory. -/
def settingsPath (dir : String) : String := Path.join dir settingsName

/-- Whether a file says that it is the root. -/
def isRoot (t : FileTree) (path : String) : Bool :=
  match (t.text? path).bind Layer.parse with
  | some layer => layer.root == some true
  | none => false

/-- The files met on the way up, and whether the last of them ended the climb. -/
def climb (t : FileTree) : List String → List String × Bool
  | [] => ([], false)
  | dir :: dirs =>
    let path := settingsPath dir
    if !t.isFile path then climb t dirs
    else if isRoot t path then ([path], true)
    else
      let (paths, stopped) := climb t dirs
      (path :: paths, stopped)

/-- The settings files for a working directory, nearest first. There may be no home directory. -/
def discover (t : FileTree) (cwd : String) (home : Option String) : List String :=
  let (paths, stopped) := climb t (Path.ancestors cwd)
  match home.map settingsPath with
  | some own => if !stopped && t.isFile own && !paths.any (Path.same · own) then paths ++ [own] else paths
  | none => paths

theorem discover_stop (t : FileTree) (cwd : String) (home : Option String)
    (h : (climb t (Path.ancestors cwd)).2 = true) : discover t cwd home = (climb t (Path.ancestors cwd)).1 := by
  cases home <;> simp [discover, h]

namespace Config

/-- Reads the files of a list, in order. -/
def readFiles (t : FileTree) : List String → Except ConfigFault (List Source)
  | [] => .ok []
  | path :: paths => do
    let text ← match t.text? path with
      | some text => pure text
      | none => .error (.unreadable path)
    let source ← readSource path text
    let rest ← readFiles t paths
    pure (source :: rest)

/-- The configuration of a list of files, the one with the highest precedence first. -/
def loadFiles (t : FileTree) (paths : List String) : Except ConfigFault Config := do
  merge (← readFiles t paths)

/-- The configuration for a working directory. -/
def load (t : FileTree) (cwd : String) (home : Option String) : Except ConfigFault Config :=
  loadFiles t (discover t cwd home)

end Config

end FacetedSearch
