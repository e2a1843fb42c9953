import TargetAssembly.Configuration.Basic
import TargetAssembly.FileTree
import TargetAssembly.Json.Basic
import TargetAssembly.Json.Reader
import TargetAssembly.Problem.Basic
import TargetAssembly.Text.Utf8

/-!
# Configurations as texts

A configuration is written as a JSON object with its members in the order of their names.
`parse` reads any JSON object: members that are missing take their defaults, members of other
names are passed over, and a member with a value of the wrong type is an error.  Members are
checked in a fixed order, not in the order of the text.

A name that is read may hold half of a surrogate pair without the other half, which no string
does.  So what is read is a `Configuration.Parsed`, whose names are kept position by position.
-/

namespace TargetAssembly.Configuration

open Text (Point)

/-! ## Names by position -/

/-- A configuration as it is read, with its names position by position. -/
structure Parsed where
  /-- The architectures that are asked for by name. -/
  multiCpus : List (List Point)
  /-- The architecture if none is asked for by name. -/
  cpu : List Point
  /-- The least version of the system. -/
  minimumOs : List Point
  /-- Whether a run stops at its end to look for leaks. -/
  runMemleaks : Bool
  /-- The name of the workspace. -/
  workspaceName : List Point
  /-- Whether files of other workspaces are found in their former place too. -/
  legacyExternalRunfiles : Bool
  /-- Whether coverage is gathered. -/
  coverageEnabled : Bool
deriving DecidableEq, Repr

/-- A configuration as it is read back. -/
def parsed (c : Configuration) : Parsed :=
  { multiCpus := c.multiCpus.map Point.ofString
    cpu := Point.ofString c.cpu
    minimumOs := Point.ofString c.minimumOs
    runMemleaks := c.runMemleaks
    workspaceName := Point.ofString c.workspaceName
    legacyExternalRunfiles := c.legacyExternalRunfiles
    coverageEnabled := c.coverageEnabled }

/-- The configuration that was read, if there is no lone half in its names. -/
def Parsed.typed? (p : Parsed) : Option Configuration := do
  return { multiCpus := ← p.multiCpus.mapM Point.text?
           cpu := ← Point.text? p.cpu
           minimumOs := ← Point.text? p.minimumOs
           runMemleaks := p.runMemleaks
           workspaceName := ← Point.text? p.workspaceName
           legacyExternalRunfiles := p.legacyExternalRunfiles
           coverageEnabled := p.coverageEnabled }

@[simp] theorem typed?_parsed (c : Configuration) : c.parsed.typed? = some c := by
  simp [Parsed.typed?, parsed, Value.mapM_map_some Point.text?_ofString]

/-! ## Writing -/

/-- A configuration as a JSON value. -/
def Parsed.toJson (p : Parsed) : Json :=
  let member (name : String) (value : Json) : List Point × Json := (Point.ofString name, value)
  .object [
    member "coverage_enabled" (.bool p.coverageEnabled),
    member "ios_cpu" (.text p.cpu),
    member "ios_multi_cpus" (.list (p.multiCpus.map .text)),
    member "legacy_external_runfiles" (.bool p.legacyExternalRunfiles),
    member "minimum_os" (.text p.minimumOs),
    member "run_memleaks" (.bool p.runMemleaks),
    member "workspace_name" (.text p.workspaceName)]

/-- The text of a configuration that was read, one member a line. -/
def Parsed.written (p : Parsed) : List Char := p.toJson.indented 0 ++ ['\n']

/-- The text of a configuration. -/
def written (c : Configuration) : List Char := c.parsed.written

/-! ## Reading -/

/-- What is wrong with a configuration. -/
inductive Malformed where
  /-- The text is no JSON, for a reason that is found at a place. -/
  | notJson (reason : String)
  /-- The text is JSON, but no object. -/
  | notObject
  /-- A member that lists names has another value, or an item that is no name. -/
  | notNames (key : String) (value : Json)
  /-- A member that is a name has another value or is empty. -/
  | notName (key : String) (value : Json)
  /-- A member that says yes or no has another value. -/
  | notBoolean (key : String) (value : Json)
  /-- There is no file to read. -/
  | noFile (path : String)

/-- The problem that a malformed configuration is. -/
def Malformed.problem : Malformed → Problem
  | notJson reason =>
    { kind := .configuration, message := "Invalid build configuration JSON.", hint := some reason }
  | notObject =>
    { kind := .configuration, message := "Invalid build configuration payload type." }
  | notNames key value =>
    about key value (some "Expected a list of architecture names.")
  | notName key value => about key value none
  | notBoolean key value => about key value (some "Use JSON true/false.")
  | noFile path =>
    { kind := .configuration
      message := "Build configuration file does not exist."
      hint := some "Write one with write_build_configuration() or pass BuildConfiguration()."
      context := [("path", path)] }
where
  /-- A member with a value of the wrong type. -/
  about (key : String) (value : Json) (hint : Option String) : Problem :=
    { kind := .configuration
      message := "Invalid build configuration `" ++ key ++ "` value."
      hint
      context := [("key", key), ("value", value.quoted)] }

/-- Why a text was not read as a configuration. -/
inductive ParseError where
  /-- The configuration is malformed. -/
  | malformed (what : Malformed)
  /-- A whole number in the text has too many digits. -/
  | tooManyDigits (count : Nat)

/-- The names of a list whose items are all texts that are not empty. -/
def names? : List Json → Option (List (List Point))
  | [] => some []
  | .text s :: rest => if s.isEmpty then none else (names? rest).map (s :: ·)
  | _ :: _ => none

/-- The members of an object. -/
abbrev Members := List (List Point × Json)

/-- The value of a member that lists names; it is empty if there is no such member. -/
def namesAt (key : String) (members : Members) : Except Malformed (List (List Point)) :=
  match Json.member? key members with
  | none => .ok []
  | some value =>
    match value with
    | .list items =>
      match names? items with
      | some names => .ok names
      | none => .error (.notNames key value)
    | _ => .error (.notNames key value)

/-- The value of a member that is a name. -/
def nameAt (key : String) (fallback : List Point) (members : Members) :
    Except Malformed (List Point) :=
  match Json.member? key members with
  | none => .ok fallback
  | some value =>
    match value with
    | .text s => if s.isEmpty then .error (.notName key value) else .ok s
    | _ => .error (.notName key value)

/-- The value of a member that says yes or no. -/
def booleanAt (key : String) (fallback : Bool) (members : Members) : Except Malformed Bool :=
  match Json.member? key members with
  | none => .ok fallback
  | some (.bool b) => .ok b
  | some value => .error (.notBoolean key value)

/-- The configuration that the members of an object give. -/
def ofMembers (members : Members) : Except Malformed Parsed := do
  let fallback : Parsed := parsed {}
  let multiCpus ← namesAt "ios_multi_cpus" members
  let cpu ← nameAt "ios_cpu" fallback.cpu members
  let minimumOs ← nameAt "minimum_os" fallback.minimumOs members
  let runMemleaks ← booleanAt "run_memleaks" fallback.runMemleaks members
  let workspaceName ← nameAt "workspace_name" fallback.workspaceName members
  let legacyExternalRunfiles ←
    booleanAt "legacy_external_runfiles" fallback.legacyExternalRunfiles members
  let coverageEnabled ← booleanAt "coverage_enabled" fallback.coverageEnabled members
  return { multiCpus, cpu, minimumOs, runMemleaks, workspaceName, legacyExternalRunfiles,
           coverageEnabled }

/-- The configuration that a JSON value gives. -/
def ofJson : Json → Except Malformed Parsed
  | .object members => ofMembers members
  | _ => .error .notObject

/-- Read a text as a configuration. -/
def parse (raw : List Char) : Except ParseError Parsed :=
  match Json.read raw with
  | .ok value =>
    match ofJson value with
    | .ok c => .ok c
    | .error m => .error (.malformed m)
  | .error (.malformed fault position) =>
    .error (.malformed (.notJson (fault.located raw position)))
  | .error (.tooManyDigits count) => .error (.tooManyDigits count)

end TargetAssembly.Configuration

namespace TargetAssembly.Configuration

/-!
## Configurations in files

A configuration is written to a file as UTF-8, with the directories above it.  Reading takes the
bytes of the file as UTF-8 and any line end as a line feed, and reads the text as a
configuration.
-/

/-- Why a file was not read as a configuration. -/
inductive LoadError where
  /-- The text of the file is no configuration. -/
  | parse (e : ParseError)
  /-- The bytes of the file are no UTF-8. -/
  | encoding (flaw : Text.Utf8.Flaw)
  /-- The path leads to no file, though something is there. -/
  | file (e : FileError)

/-- Write a configuration to a file. -/
def save (c : Configuration) (t : FileTree) (p : FilePath) :
    FileTree × Except FileError Unit :=
  t.writeDeep p (Text.Utf8.encode c.written)

/-- Read a configuration from a file. -/
def load (t : FileTree) (p : FilePath) : Except LoadError Parsed :=
  match t.read p with
  | .error e =>
    if e.fault = .notFound then .error (.parse (.malformed (.noFile p.text))) else .error (.file e)
  | .ok bytes =>
    match Text.Utf8.decode bytes with
    | .error flaw => .error (.encoding flaw)
    | .ok cs =>
      match parse (Text.Utf8.lineFeeds cs) with
      | .ok c => .ok c
      | .error e => .error (.parse e)

end TargetAssembly.Configuration
