/-!
# Flags

A command is followed by flags and at most one plain argument. A flag is called by its name behind two dashes or by a
letter behind one. Its value stands in the same argument or in the next one, which must not look like a flag; several
letters may share a dash. Two dashes alone end the flags.

* `readArguments`: the record that a list of arguments describes, or the first fault in them.
-/

namespace FacetedSearch

/-- Why arguments describe no command. -/
inductive UsageFault
  | help
  | noCommand
  | unknownCommand (name : String)
  | unknownFlag (flag : String)
  | unexpected (argument : String)
  | noValue (flag : String)
  | unneededValue (flag value : String)
  | repeated (flag : String)
  | invalidValue (value flag reason : String)
  | missing (argument : String)
  deriving DecidableEq

/-- The fault in words. -/
def UsageFault.message : UsageFault → String
  | .help => "help is asked for"
  | .noCommand => "a command is required"
  | .unknownCommand name => "unrecognized subcommand '" ++ name ++ "'"
  | .unknownFlag flag => "unexpected argument '" ++ flag ++ "' found"
  | .unexpected argument => "unexpected argument '" ++ argument ++ "' found"
  | .noValue flag => "a value is required for '" ++ flag ++ "' but none was supplied"
  | .unneededValue flag value => "unexpected value '" ++ value ++ "' for '" ++ flag ++ "' found; no more were expected"
  | .repeated flag => "the argument '" ++ flag ++ "' cannot be used multiple times"
  | .invalidValue value flag reason => "invalid value '" ++ value ++ "' for '" ++ flag ++ "': " ++ reason
  | .missing argument => "the following required arguments were not provided: " ++ argument

/-- A flag: what it is called, what its value is called if it takes one, whether it may be given again, and what it
changes in the record of its command. -/
structure Flag (α : Type) where
  name : String
  letter : Option Char := none
  value : Option String := none
  repeats : Bool := false
  helps : Bool := false
  set : String → α → Except String α

namespace Flag

variable {α β : Type}

/-- The flag and its value as they are shown. -/
def label (f : Flag α) : String :=
  match f.value with
  | some v => "--" ++ f.name ++ " <" ++ v ++ ">"
  | none => "--" ++ f.name

/-- A flag of a part of a record, as a flag of the whole. -/
def within (f : Flag α) (get : β → α) (put : α → β → β) : Flag β :=
  { f with set := fun v b => (f.set v (get b)).map (put · b) }

/-- The flag that asks for help. -/
def help : Flag α where
  name := "help"
  letter := some 'h'
  helps := true
  set _ a := .ok a

/-- The flag that asks for more log lines. -/
def verbose : Flag α where
  name := "verbose"
  letter := some 'v'
  repeats := true
  set _ a := .ok a

end Flag

/-- What a command takes: its flags, and its plain argument if it has one. -/
structure Usage (α : Type) where
  flags : List (Flag α)
  plain : Option (Flag α) := none

/-- What has been read of some arguments: the record, the flags that were given, and a flag whose value has not been
taken yet, or has not even come. -/
structure Given (α : Type) where
  record : α
  seen : List String := []
  waiting : Option (Flag α × Option String) := none

namespace Given

variable {α : Type}

/-- Takes a flag with its value. -/
def take (g : Given α) (f : Flag α) (v : String) : Except UsageFault (Given α) :=
  if f.helps then .error .help
  else if g.seen.contains f.name && !f.repeats then .error (.repeated f.label)
  else
    match f.set v g.record with
    | .ok record => .ok { g with record, seen := f.name :: g.seen }
    | .error reason => .error (.invalidValue v f.label reason)

/-- Takes the flag that waits. -/
def settle (g : Given α) : Except UsageFault (Given α) :=
  match g.waiting with
  | none => .ok g
  | some (f, some v) => { g with waiting := none }.take f v
  | some (f, none) => .error (.noValue f.label)

/-- Takes a flag that is called without a value in the same argument. -/
def call (g : Given α) (f : Flag α) : Except UsageFault (Given α) := do
  let g ← g.settle
  if f.value.isSome then pure { g with waiting := some (f, none) } else g.take f ""

/-- Takes a flag that is called with a value in the same argument. -/
def callWith (g : Given α) (f : Flag α) (v : String) : Except UsageFault (Given α) := do
  let g ← g.settle
  if f.value.isSome then g.take f v else .error (.unneededValue f.label v)

/-- Takes the letters behind a single dash. -/
def callLetters (flags : List (Flag α)) (g : Given α) : List Char → Except UsageFault (Given α)
  | [] => .ok g
  | c :: cs =>
    match flags.find? (·.letter == some c) with
    | none => do
      let _ ← g.settle
      .error (.unknownFlag ("-" ++ String.singleton c))
    | some f =>
      if f.value.isNone then do
        let g ← g.call f
        callLetters flags g cs
      else
        match cs with
        | [] => g.call f
        | '=' :: v => g.callWith f (String.ofList v)
        | v => g.callWith f (String.ofList v)

/-- Takes a name behind two dashes, with a value if an equals sign follows. -/
def callName (flags : List (Flag α)) (g : Given α) (s : List Char) : Except UsageFault (Given α) :=
  let name := String.ofList (s.takeWhile (· != '='))
  match flags.find? (·.name == name), s.dropWhile (· != '=') with
  | none, _ => do
    let _ ← g.settle
    .error (.unknownFlag ("--" ++ name))
  | some f, [] => g.call f
  | some f, _ :: v => g.callWith f (String.ofList v)

/-- Takes a plain argument. -/
def takePlain (plain : Option (Flag α)) (g : Given α) (a : String) : Except UsageFault (Given α) :=
  match plain with
  | none => .error (.unexpected a)
  | some p =>
    if g.seen.contains p.name then .error (.unexpected a)
    else do
      let g ← g.settle
      g.take p a

/-- Takes an argument that is no flag: the value that a flag waits for, or else the plain argument. -/
def takeOther (plain : Option (Flag α)) (g : Given α) (a : String) : Except UsageFault (Given α) :=
  match g.waiting with
  | some (f, none) => .ok { g with waiting := some (f, some a) }
  | _ => g.takePlain plain a

end Given

/-- Reads arguments; `ended` says that no more flags follow. -/
def readFrom {α : Type} (u : Usage α) (ended : Bool) (g : Given α) : List String → Except UsageFault (Given α)
  | [] => g.settle
  | a :: as =>
    if ended then do
      let g ← g.takePlain u.plain a
      readFrom u true g as
    else
      match a.toList with
      | ['-', '-'] => readFrom u true g as
      | '-' :: '-' :: s => do
        let g ← g.callName u.flags s
        readFrom u false g as
      | '-' :: c :: cs => do
        let g ← g.callLetters u.flags (c :: cs)
        readFrom u false g as
      | _ => do
        let g ← g.takeOther u.plain a
        readFrom u false g as

/-- Reads the arguments of a command into its record; its plain argument is required. -/
def readArguments {α : Type} (u : Usage α) (record : α) (args : List String) : Except UsageFault α := do
  let g ← readFrom { u with flags := u.flags ++ [.verbose, .help] } false { record } args
  match u.plain with
  | some p => if g.seen.contains p.name then pure g.record else .error (.missing ("<" ++ p.name ++ ">"))
  | none => pure g.record

end FacetedSearch
