import TargetAssembly.BuildMode
import TargetAssembly.Value.Reading

/-!
# Capabilities

What a target offers to those who run, instrument or open it comes in four kinds.  A capability is a
record of one kind.
-/

namespace TargetAssembly

/-- The kinds of capabilities. -/
inductive CapabilityKind where
  /-- How the target is to be run. -/
  | executionInfo
  /-- The files that the target needs when it runs. -/
  | runfiles
  /-- The files that coverage looks at. -/
  | instrumentedFiles
  /-- The project that opens the target. -/
  | ideProject
deriving DecidableEq, Repr

namespace CapabilityKind

/-- The text of a kind. -/
def text : CapabilityKind → String
  | executionInfo => "execution_info"
  | runfiles => "runfiles"
  | instrumentedFiles => "instrumented_files"
  | ideProject => "ide_project"

/-- All kinds. -/
def all : List CapabilityKind := [executionInfo, runfiles, instrumentedFiles, ideProject]

/-- The kind with a given text. -/
def ofText? (s : String) : Option CapabilityKind := all.find? (·.text == s)

/-- The name of the records that are capabilities of a kind. -/
def typeName : CapabilityKind → String
  | executionInfo => "ExecutionInfo"
  | runfiles => "Runfiles"
  | instrumentedFiles => "InstrumentedFiles"
  | ideProject => "XcodeInfo"

/-- The kind whose capabilities are records of a type. -/
def ofTypeName? (type : String) : Option CapabilityKind := all.find? (·.typeName == type)

/-- A kind as a value. -/
def toValue (k : CapabilityKind) : Value :=
  let member := match k with
    | executionInfo => "EXECUTION_INFO"
    | runfiles => "RUNFILES"
    | instrumentedFiles => "INSTRUMENTED_FILES"
    | ideProject => "IDE_PROJECT"
  .enumerated ⟨"CapabilityKind", member, k.text⟩

end CapabilityKind

/-- How a target is to be run. -/
structure ExecutionInfo where
  /-- What the machine that runs it has to provide, each key once. -/
  requirements : List (String × String) := []
deriving DecidableEq, Repr

/-- How a target is to be run, as a value. -/
def ExecutionInfo.toValue (e : ExecutionInfo) : Value :=
  .record "ExecutionInfo" [
    ("requirements", .ofTextMapping e.requirements)]

/-- A value as how a target is to be run. -/
def ExecutionInfo.ofValue? (v : Value) : Option ExecutionInfo := do
  let [requirements] ← v.fields? "ExecutionInfo" ["requirements"] | none
  return { requirements := ← requirements.textMapping? }

@[simp] theorem ExecutionInfo.ofValue?_toValue (e : ExecutionInfo) :
    ofValue? e.toValue = some e := by
  simp [ofValue?, toValue, Value.fields?]

/-- The files that a target needs when it runs. -/
structure Runfiles where
  /-- The name of the workspace. -/
  workspaceName : String
  /-- The files. -/
  artifacts : ArtifactSet := .empty
  /-- What is run. -/
  executable : Option Artifact := none
  /-- Whether files of other workspaces are found in their former place too. -/
  legacyExternalRunfiles : Bool := true
deriving DecidableEq

/-- The files that a target needs when it runs, as a value. -/
def Runfiles.toValue (r : Runfiles) : Value :=
  .record "Runfiles" [
    ("workspace_name", .text r.workspaceName),
    ("artifacts", .artifacts r.artifacts),
    ("executable", .ofArtifact? r.executable),
    ("legacy_external_runfiles", .bool r.legacyExternalRunfiles)]

/-- A value as the files that a target needs when it runs. -/
def Runfiles.ofValue? (v : Value) : Option Runfiles := do
  let [workspaceName, artifacts, executable, legacy] ← v.fields? "Runfiles"
    ["workspace_name", "artifacts", "executable", "legacy_external_runfiles"] | none
  return { workspaceName := ← workspaceName.text?
           artifacts := ← artifacts.artifacts?
           executable := ← executable.option? Value.artifact?
           legacyExternalRunfiles := ← legacy.bool? }

@[simp] theorem Runfiles.ofValue?_toValue (r : Runfiles) : ofValue? r.toValue = some r := by
  simp [ofValue?, toValue, Value.fields?]

/-- The files that coverage looks at. -/
structure InstrumentedFiles where
  /-- The sources that are counted. -/
  instrumented : ArtifactSet := .empty
  /-- The notes that counting needs. -/
  metadata : ArtifactSet := .empty
deriving DecidableEq

/-- The files that coverage looks at, as a value. -/
def InstrumentedFiles.toValue (f : InstrumentedFiles) : Value :=
  .record "InstrumentedFiles" [
    ("instrumented", .artifacts f.instrumented),
    ("metadata", .artifacts f.metadata)]

/-- A value as the files that coverage looks at. -/
def InstrumentedFiles.ofValue? (v : Value) : Option InstrumentedFiles := do
  let [instrumented, metadata] ←
    v.fields? "InstrumentedFiles" ["instrumented", "metadata"] | none
  return { instrumented := ← instrumented.artifacts?, metadata := ← metadata.artifacts? }

@[simp] theorem InstrumentedFiles.ofValue?_toValue (f : InstrumentedFiles) :
    ofValue? f.toValue = some f := by
  simp [ofValue?, toValue, Value.fields?]

/-- Settings of a project: names and values, in order. -/
abbrev Settings := List (String × String)

/-- The project that opens a target. -/
structure ProjectInfo where
  /-- The label of the target. -/
  label : String
  /-- The type of its product. -/
  productType : ProductType
  /-- The label of the application that hosts its tests. -/
  testHost : Option String := none
  /-- The labels of what it depends on. -/
  dependencies : List String := []
  /-- The labels of what it depends on without passing it on. -/
  nonPropagatedDependencies : List String := []
  /-- The settings of the build. -/
  settings : Settings := []
deriving DecidableEq, Repr

/-- The project that opens a target, as a value. -/
def ProjectInfo.toValue (p : ProjectInfo) : Value :=
  .record "XcodeInfo" [
    ("label", .text p.label),
    ("product_type", p.productType.toValue),
    ("test_host", .ofText? p.testHost),
    ("dependencies", .ofTexts p.dependencies),
    ("non_propagated_dependencies", .ofTexts p.nonPropagatedDependencies),
    ("settings", .ofTextPairs p.settings)]

/-- A value as the project that opens a target. -/
def ProjectInfo.ofValue? (v : Value) : Option ProjectInfo := do
  let [label, productType, testHost, dependencies, nonPropagated, settings] ← v.fields? "XcodeInfo"
    ["label", "product_type", "test_host", "dependencies", "non_propagated_dependencies",
      "settings"] | none
  return { label := ← label.text?
           productType := ← ProductType.ofValue? productType
           testHost := ← testHost.option? Value.text?
           dependencies := ← dependencies.texts?
           nonPropagatedDependencies := ← nonPropagated.texts?
           settings := ← settings.textPairs? }

@[simp] theorem ProjectInfo.ofValue?_toValue (p : ProjectInfo) : ofValue? p.toValue = some p := by
  simp [ofValue?, toValue, Value.fields?]

/-- A capability of one of the four kinds. -/
inductive Capability where
  /-- How the target is to be run. -/
  | executionInfo (e : ExecutionInfo)
  /-- The files that the target needs when it runs. -/
  | runfiles (r : Runfiles)
  /-- The files that coverage looks at. -/
  | instrumentedFiles (f : InstrumentedFiles)
  /-- The project that opens the target. -/
  | ideProject (p : ProjectInfo)
deriving DecidableEq

namespace Capability

/-- The kind of a capability. -/
def kind : Capability → CapabilityKind
  | executionInfo _ => .executionInfo
  | runfiles _ => .runfiles
  | instrumentedFiles _ => .instrumentedFiles
  | ideProject _ => .ideProject

/-- A capability as a value. -/
def toValue : Capability → Value
  | executionInfo e => e.toValue
  | runfiles r => r.toValue
  | instrumentedFiles f => f.toValue
  | ideProject p => p.toValue

/-- A value as a capability of some kind. -/
def ofValue? (v : Value) : Option Capability :=
  (ExecutionInfo.ofValue? v).map executionInfo <|> (Runfiles.ofValue? v).map runfiles <|>
    (InstrumentedFiles.ofValue? v).map instrumentedFiles <|>
    (ProjectInfo.ofValue? v).map ideProject

end Capability

/-! ## Capabilities of other types -/

/-- How a test runner reaches a device. -/
structure TestRunner where
  /-- The program that runs the tests. -/
  runner : Artifact
  /-- The device. -/
  targetDevice : Option String := none
  /-- Arguments for the device. -/
  deviceArgs : List String := []
  /-- Plugins of the runner. -/
  plugins : List String := []
deriving DecidableEq, Repr

/-- How a test runner reaches a device, as a value. -/
def TestRunner.toValue (t : TestRunner) : Value :=
  .record "TestRunnerInfo" [
    ("runner", .artifact t.runner),
    ("target_device", .ofText? t.targetDevice),
    ("device_args", .ofTexts t.deviceArgs),
    ("plugins", .ofTexts t.plugins)]

/-- The tool that gathers coverage. -/
structure CoverageTool where
  /-- The tool. -/
  tool : Artifact
  /-- The sources that it counts. -/
  instrumentedSources : List Artifact := []
deriving DecidableEq, Repr

/-- The tool that gathers coverage, as a value. -/
def CoverageTool.toValue (t : CoverageTool) : Value :=
  .record "CoverageToolInfo" [
    ("tool", .artifact t.tool),
    ("instrumented_sources", .ofArtifacts t.instrumentedSources)]

end TargetAssembly
