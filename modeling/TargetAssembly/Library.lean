import TargetAssembly.Capability
import TargetAssembly.TestTarget
import TargetAssembly.Value.Reading

/-!
# Libraries and what is made of them

A library is what compiled code brings along.  Its resources are compiled to archives, and a host
application may lend its own library to the tests that it loads.
-/

namespace TargetAssembly

/-!
## Libraries

A library is what compiled code brings along: frameworks, sources, resources and archives to
link.  The union of libraries keeps, field by field, every entry once, at the place where it
comes first.
-/

/-- What compiled code brings along. -/
structure Library where
  /-- The frameworks to link. -/
  sdkFrameworks : List String := []
  /-- The source files. -/
  sources : List Artifact := []
  /-- The storyboards. -/
  storyboards : List Artifact := []
  /-- The data models. -/
  dataModels : List Artifact := []
  /-- The archives to link. -/
  linkedLibraries : List Artifact := []
deriving DecidableEq, Repr

namespace Library

/-- The entries of all lists, each once, at the place where it comes first. -/
def unionOf {α : Type} [BEq α] (groups : List (List α)) : List α :=
  groups.flatten.eraseDups

/-- The union of a library with others. -/
def union (l : Library) (others : List Library) : Library :=
  let all := l :: others
  { sdkFrameworks := unionOf (all.map (·.sdkFrameworks))
    sources := unionOf (all.map (·.sources))
    storyboards := unionOf (all.map (·.storyboards))
    dataModels := unionOf (all.map (·.dataModels))
    linkedLibraries := unionOf (all.map (·.linkedLibraries)) }

/-- A library as a value. -/
def toValue (l : Library) : Value :=
  .record "LibraryInfo" [
    ("sdk_frameworks", .ofTexts l.sdkFrameworks),
    ("sources", .ofArtifacts l.sources),
    ("storyboards", .ofArtifacts l.storyboards),
    ("xcdatamodels", .ofArtifacts l.dataModels),
    ("linked_libraries", .ofArtifacts l.linkedLibraries)]

/-- A value as a library. -/
def ofValue? (v : Value) : Option Library := do
  let [frameworks, sources, storyboards, dataModels, linked] ← v.fields? "LibraryInfo"
    ["sdk_frameworks", "sources", "storyboards", "xcdatamodels", "linked_libraries"] | none
  return { sdkFrameworks := ← frameworks.texts?
           sources := ← sources.artifactList?
           storyboards := ← storyboards.artifactList?
           dataModels := ← dataModels.artifactList?
           linkedLibraries := ← linked.artifactList? }

@[simp] theorem ofValue?_toValue (l : Library) : ofValue? l.toValue = some l := by
  simp [ofValue?, toValue, Value.fields?]

end Library

end TargetAssembly

namespace TargetAssembly.ResourceArchive

/-!
## Archives of resources

Every data model and every storyboard of a library is compiled to an archive among the
intermediate files of the target.  The archive is named for the last component of the path that
it is made from.
-/

/-- An intermediate file of a target: its package, the directory of such files, its name and the
name of the file, as far as they are not empty. -/
def intermediateOf (package name file : String) : Artifact :=
  { path := "/".intercalate ([package, "_objs", name, file].filter (· ≠ "")) }

/-- An intermediate file of a target. -/
def intermediate (a : TestTarget) (file : String) : Artifact := intermediateOf a.package a.name file

/-- A text without an ending, if it ends so. -/
def without (ending s : String) : String :=
  String.ofList (Text.withoutEnding ending.toList s.toList)

/-- The name of the archive of a storyboard with a given file name. -/
def storyboardFile (fileName : String) : String :=
  without ".storyboard" fileName ++ ".storyboard.zip"

/-- The archive that a storyboard is compiled to. -/
def ofStoryboard (a : TestTarget) (storyboard : Artifact) : Artifact :=
  intermediate a (storyboardFile storyboard.fileName)

/-- The name of a data model: its file name without the endings of models and of their versions. -/
def dataModelName (fileName : String) : String :=
  without ".xcdatamodel" (without ".xcdatamodeld" fileName)

/-- The name of the archive of a data model with a given file name. -/
def dataModelFile (fileName : String) : String := dataModelName fileName ++ ".xcdatamodel.zip"

/-- The archive that a data model is compiled to. -/
def ofDataModel (a : TestTarget) (model : Artifact) : Artifact :=
  intermediate a (dataModelFile model.fileName)

/-- The archives that a target builds, each once: those of data models, then those of
storyboards. -/
def all (a : TestTarget) (l : Library) : List Artifact :=
  (l.dataModels.map (ofDataModel a) ++ l.storyboards.map (ofStoryboard a)).eraseDups

end TargetAssembly.ResourceArchive

namespace TargetAssembly

/-!
## Host applications

A hosted unit test is loaded by an application, links against its binary and may use what its
library brings along.  `HostApp.ofLabel` is the application that a target of a given label makes.
-/

/-- An application that can host unit tests. -/
structure HostApp where
  /-- The label of the application. -/
  label : String
  /-- Its binary. -/
  linkedBinary : Artifact
  /-- Its package for a device. -/
  ipa : Artifact
  /-- What it brings along. -/
  library : Library := {}
  /-- The project that opens it. -/
  project : Option ProjectInfo := none
deriving DecidableEq, Repr

namespace HostApp

/-- A host application as a value. -/
def toValue (h : HostApp) : Value :=
  .record "HostApp" [
    ("label", .text h.label),
    ("linked_binary", .artifact h.linkedBinary),
    ("ipa", .artifact h.ipa),
    ("library", h.library.toValue),
    ("xcode", (h.project.map ProjectInfo.toValue).getD .null)]

/-- A value as a host application. -/
def ofValue? (v : Value) : Option HostApp := do
  let [label, linkedBinary, ipa, library, project] ←
    v.fields? "HostApp" ["label", "linked_binary", "ipa", "library", "xcode"] | none
  return { label := ← label.text?
           linkedBinary := ← linkedBinary.artifact?
           ipa := ← ipa.artifact?
           library := ← Library.ofValue? library
           project := ← project.option? ProjectInfo.ofValue? }

@[simp] theorem ofValue?_toValue (h : HostApp) : ofValue? h.toValue = some h := by
  simp [ofValue?, toValue, Value.fields?, Value.option?_getD ProjectInfo.ofValue?_toValue rfl]

/-- The path of the outputs of an application with a given label, up to their endings. -/
def outputPath (label : String) : String :=
  Label.inPackage (Label.package label) (Label.statedName label)

/-- The application that a target of a given label makes, with frameworks of its own. -/
def ofLabel (label : String) (frameworks : List String) : HostApp :=
  let binary : Artifact := { path := outputPath label ++ "_bin" }
  { label
    linkedBinary := binary
    ipa := { path := outputPath label ++ ".ipa" }
    library := { sdkFrameworks := frameworks, linkedLibraries := [binary] }
    project := some { label, productType := .application } }

end HostApp

end TargetAssembly
