import TargetAssembly.Description
import TargetAssembly.Diagnostics
import TargetAssembly.Library

/-!
# What the systems around a build answer

Compilers, packagers and the makers of projects and of test runners answer a build with what they
will make: files, settings for the project that opens the target, and diagnostics.  Each
structure is the answer of one of them.
-/

namespace TargetAssembly

/-- The library that the sources and the dependencies of a target make up. -/
structure CommonLibrary where
  /-- Whether an archive is compiled for it. -/
  hasArchive : Bool
  /-- What it brings along. -/
  library : Library
deriving DecidableEq, Repr

/-- A common library as a value. -/
def CommonLibrary.toValue (c : CommonLibrary) : Value :=
  .record "CommonLibraryResult" [
    ("has_compiled_archive", .bool c.hasArchive),
    ("library", c.library.toValue)]

/-- A value as a common library. -/
def CommonLibrary.ofValue? (v : Value) : Option CommonLibrary := do
  let [hasArchive, library] ←
    v.fields? "CommonLibraryResult" ["has_compiled_archive", "library"] | none
  return { hasArchive := ← hasArchive.bool?, library := ← Library.ofValue? library }

@[simp] theorem CommonLibrary.ofValue?_toValue (c : CommonLibrary) :
    ofValue? c.toValue = some c := by
  simp [ofValue?, toValue, Value.fields?]

/-- Diagnostics as a value. -/
def Diagnostic.listToValue (ds : List Diagnostic) : Value := .tuple (ds.map toValue)

/-- A value as diagnostics. -/
def Diagnostic.ofValues? : Value → Option (List Diagnostic) := Value.list? ofValue?

@[simp] theorem Diagnostic.ofValues?_listToValue (ds : List Diagnostic) :
    ofValues? (listToValue ds) = some ds :=
  Value.list?_tuple_map ofValue?_toValue ds

/-- What compiling and linking makes. -/
structure Compilation where
  /-- The files. -/
  files : List Artifact := []
  /-- The settings for the project. -/
  settings : Settings := []
  /-- The diagnostics. -/
  diagnostics : List Diagnostic := []
deriving DecidableEq, Repr

/-- What compiling and linking makes, as a value. -/
def Compilation.toValue (c : Compilation) : Value :=
  .record "CompileLinkResult" [
    ("files", .ofArtifacts c.files),
    ("settings", .ofTextPairs c.settings),
    ("diagnostics", Diagnostic.listToValue c.diagnostics)]

/-- A value as what compiling and linking makes. -/
def Compilation.ofValue? (v : Value) : Option Compilation := do
  let [files, settings, diagnostics] ←
    v.fields? "CompileLinkResult" ["files", "settings", "diagnostics"] | none
  return { files := ← files.artifactList?
           settings := ← settings.textPairs?
           diagnostics := ← Diagnostic.ofValues? diagnostics }

@[simp] theorem Compilation.ofValue?_toValue (c : Compilation) : ofValue? c.toValue = some c := by
  simp [ofValue?, toValue, Value.fields?]

/-- What packaging makes. -/
structure Bundle where
  /-- The directory of the bundle in the package. -/
  directory : String
  /-- The files. -/
  files : List Artifact := []
  /-- The settings for the project. -/
  settings : Settings := []
  /-- The diagnostics. -/
  diagnostics : List Diagnostic := []
deriving DecidableEq, Repr

/-- What packaging makes, as a value. -/
def Bundle.toValue (b : Bundle) : Value :=
  .record "BundlingResult" [
    ("bundle_dir", .text b.directory),
    ("files", .ofArtifacts b.files),
    ("settings", .ofTextPairs b.settings),
    ("diagnostics", Diagnostic.listToValue b.diagnostics)]

/-- A value as what packaging makes. -/
def Bundle.ofValue? (v : Value) : Option Bundle := do
  let [directory, files, settings, diagnostics] ←
    v.fields? "BundlingResult" ["bundle_dir", "files", "settings", "diagnostics"] | none
  return { directory := ← directory.text?
           files := ← files.artifactList?
           settings := ← settings.textPairs?
           diagnostics := ← Diagnostic.ofValues? diagnostics }

@[simp] theorem Bundle.ofValue?_toValue (b : Bundle) : ofValue? b.toValue = some b := by
  simp [ofValue?, toValue, Value.fields?]

/-- What looking at the resources of a target shows. -/
structure ResourceReport where
  /-- The settings for the project. -/
  settings : Settings := []
  /-- The diagnostics. -/
  diagnostics : List Diagnostic := []
deriving DecidableEq, Repr

/-- What looking at resources shows, as a value. -/
def ResourceReport.toValue (r : ResourceReport) : Value :=
  .record "ResourceValidationResult" [
    ("settings", .ofTextPairs r.settings),
    ("diagnostics", Diagnostic.listToValue r.diagnostics)]

/-- A value as what looking at resources shows. -/
def ResourceReport.ofValue? (v : Value) : Option ResourceReport := do
  let [settings, diagnostics] ←
    v.fields? "ResourceValidationResult" ["settings", "diagnostics"] | none
  return { settings := ← settings.textPairs?, diagnostics := ← Diagnostic.ofValues? diagnostics }

@[simp] theorem ResourceReport.ofValue?_toValue (r : ResourceReport) :
    ofValue? r.toValue = some r := by
  simp [ofValue?, toValue, Value.fields?]

/-- The project that opens a target. -/
structure ProjectExport where
  /-- What is supplied as its capability. -/
  project : Supply
  /-- The files. -/
  files : List Artifact := []

/-- A project as a value. -/
def ProjectExport.toValue (p : ProjectExport) : Value :=
  .record "IdeProjectResult" [
    ("xcode", p.project.toValue),
    ("files", .ofArtifacts p.files)]

/-- A value as a project. -/
def ProjectExport.ofValue? (v : Value) : Option ProjectExport := do
  let [project, files] ← v.fields? "IdeProjectResult" ["xcode", "files"] | none
  return { project := .ofValue project, files := ← files.artifactList? }

/-- What is needed to run the tests of a target. -/
structure TestSupport where
  /-- The program that runs the tests. -/
  executable : Option Artifact
  /-- What is supplied as the capability of the files needed then. -/
  runfiles : Supply
  /-- What is supplied as the capability of the files that coverage looks at. -/
  instrumented : Supply
  /-- The files. -/
  files : List Artifact := []
  /-- Further values. -/
  extras : List Value := []

/-- What is needed to run tests, as a value. -/
def TestSupport.toValue (t : TestSupport) : Value :=
  .record "TestSupportResult" [
    ("executable", .ofArtifact? t.executable),
    ("runfiles", t.runfiles.toValue),
    ("instrumented", t.instrumented.toValue),
    ("files", .ofArtifacts t.files),
    ("extras", .tuple t.extras)]

/-- A value as what is needed to run tests. -/
def TestSupport.ofValue? (v : Value) : Option TestSupport := do
  let [executable, runfiles, instrumented, files, extras] ← v.fields? "TestSupportResult"
    ["executable", "runfiles", "instrumented", "files", "extras"] | none
  return { executable := ← executable.option? Value.artifact?
           runfiles := .ofValue runfiles
           instrumented := .ofValue instrumented
           files := ← files.artifactList?
           extras := ← extras.list? some }

end TargetAssembly
