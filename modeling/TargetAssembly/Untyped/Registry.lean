import TargetAssembly.Library
import TargetAssembly.Resolver.Registry
import TargetAssembly.Sorting
import TargetAssembly.Untyped.Problem
import TargetAssembly.Untyped.Request
import TargetAssembly.Untyped.Target
import TargetAssembly.Value.Use

/-!
# Answers from a registry of any values

A registry can hold host applications and libraries of any type, and can be asked with arguments of
any type.  If all of them are what they should be, it answers as `Registry.answer` does.  Otherwise
it makes its answer part by part, and fails at the first part that does not fit its use.
-/

namespace TargetAssembly.Untyped

/-!
## Libraries

The union of libraries and the archives of their resources, where the fields of a library may be of
any type.  Where they are what they should be, the union is that of `Library.union` and the archives
are those of `ResourceArchive.all`.
-/

/-- The names of the fields of a library. -/
def libraryFields : List String :=
  ["sdk_frameworks", "sources", "storyboards", "xcdatamodels", "linked_libraries"]

/-- The library with the items of given lists in its fields. -/
def libraryOf (fields : List (String × List Value)) : Value :=
  .record "LibraryInfo" (fields.map fun f => (f.1, .tuple f.2))

/-- The union of libraries, field by field. -/
def unionByFields (libraries : List Value) : Except Misfit Value := do
  return libraryOf (← libraryFields.mapM fun name => do
    return (name, ← Value.unionOfPart name libraries))

/-- The union of a library with others. -/
def union (library : Value) (others : List Value) : Except Misfit Value :=
  match Library.ofValue? library, others.mapM Library.ofValue? with
  | some l, some ls => .ok (l.union ls).toValue
  | _, _ => unionByFields (library :: others)

/-- A common library, by whether an archive is compiled for it and by what it brings along. -/
def commonLibraryOf (hasArchive library : Value) : Value :=
  .record "CommonLibraryResult" [("has_compiled_archive", hasArchive), ("library", library)]

/-! ### Archives of resources -/

/-- The archive that a data model is compiled to. -/
def dataModelArchive (target model : Value) : Except Misfit Artifact := do
  let name ← fileName model
  return ResourceArchive.intermediate (← named target) (ResourceArchive.dataModelFile name)

/-- The archive that a storyboard is compiled to. -/
def storyboardArchive (target storyboard : Value) : Except Misfit Artifact := do
  let name ← fileName storyboard
  return ResourceArchive.intermediate (← named target) (ResourceArchive.storyboardFile name)

/-- The archives of the data models of a library. -/
def dataModelArchives (target library : Value) : Except Misfit (List Artifact) := do
  (← (← library.part "xcdatamodels").items).mapM (dataModelArchive target)

/-- The archives of the storyboards of a library. -/
def storyboardArchives (target library : Value) : Except Misfit (List Artifact) := do
  (← (← library.part "storyboards").items).mapM (storyboardArchive target)

/-- The archives that a target builds part by part. -/
def archivesByParts (target library : Value) : Except Misfit (List Artifact) := do
  return ((← dataModelArchives target library) ++ (← storyboardArchives target library)).eraseDups

/-- The archives that a target builds, each once. -/
def archives (target library : Value) : Except Misfit (List Artifact) :=
  match TestTarget.ofValue? target, Library.ofValue? library with
  | some a, some l => .ok (ResourceArchive.all a l)
  | _, _ => archivesByParts target library

end TargetAssembly.Untyped

namespace TargetAssembly.Untyped

/-- Host applications and libraries of any type by their labels. -/
structure Registry where
  /-- The host applications. -/
  hosts : List (Value × Value) := []
  /-- The libraries. -/
  libraries : List (Value × Value) := []
  /-- The library that stops a run at its end to look for leaks. -/
  memleaks : Value := memleaksLibrary.toValue

namespace Registry

/-! ## What is known -/

/-- Register a host application under its label. -/
def addHost (r : Registry) (host : Value) : Except Misfit Registry := do
  return { r with hosts := ← Value.bind r.hosts (← host.part "label") host }

/-- Register a library under a label. -/
def addLibrary (r : Registry) (label : String) (library : Value) : Registry :=
  { r with libraries := Keyed.set (.text label) library r.libraries }

/-- The texts that some keys are, each with what its value is read as. -/
def entries? {α : Type} (f : Value → Option α) (entries : List (Value × Value)) :
    Option (List (String × α)) :=
  entries.mapM fun e => do return (← e.1.text?, ← f e.2)

/-- The registry of what should be registered, if all is what it should be. -/
def typed? (r : Registry) : Option TargetAssembly.Registry := do
  return { hosts := ← entries? HostApp.ofValue? r.hosts
           libraries := ← entries? Library.ofValue? r.libraries
           memleaks := ← Library.ofValue? r.memleaks }

/-- The value of a label in some entries, if the label is a key of them. -/
def lookUp (label : Value) (entries : List (Value × Value)) : Except Misfit (Option Value) := do
  return entries.lookup (← label.key)

/-- The host application of a target. -/
def hostOf (r : Registry) (target : Value) : Except Misfit Value := do
  match ← target.part "xctest_app" with
  | .null => return .null
  | label => return (← lookUp label r.hosts).getD .null

/-! ## The common library -/

/-- The paths of the sources of a target. -/
def sourcePaths (target : Value) : Except Misfit (List Value) := do
  let srcs ← (← target.part "srcs").listed
  return srcs ++ (← (← target.part "non_arc_srcs").listed)

/-- The sources of a target. -/
def sourcesOf (target : Value) : Except Misfit (List Value) := do
  (← sourcePaths target).mapM (sourceOf target)

/-- The sources that a part of a target lists. -/
def sourcesAt (target : Value) (name : String) : Except Misfit (List Value) := do
  (← (← target.part name).items).mapM (sourceOf target)

/-- What a target brings along by itself, with further frameworks. -/
def ownLibrary (target frameworks : Value) (sources : List Value) : Except Misfit Value := do
  let archive ← if sources.isEmpty then pure []
    else do pure [.artifact (TargetAssembly.Registry.libraryArchive (← named target))]
  let own ← (← target.part "sdk_frameworks").listed
  return libraryOf [
    ("sdk_frameworks", own ++ (← frameworks.listed)),
    ("sources", sources),
    ("storyboards", ← sourcesAt target "storyboards"),
    ("xcdatamodels", ← sourcesAt target "xcdatamodels"),
    ("linked_libraries", archive)]

/-- The registered libraries that a target depends on. -/
def dependenciesOf (r : Registry) (target : Value) : Except Misfit (List Value) := do
  let labels ← (← target.part "deps").items
  return (← labels.mapM fun label => lookUp label r.libraries).filterMap id

/-- The common library of a target: its own, those that it depends on, and further ones. -/
def commonLibrary (r : Registry) (q : Request) : Except Misfit Value := do
  let sources ← sourcesOf q.target
  let own ← ownLibrary q.target (q.argument "extra_frameworks") sources
  let dependencies ← r.dependenciesOf q.target
  let others ← (q.argument "extra_libraries").listed
  return commonLibraryOf (.bool !sources.isEmpty) (← union own (dependencies ++ others))

/-! ## Linking and packaging -/

/-- A setting with a value of any type. -/
def setting (name : String) (v : Value) : Value := .tuple [.text name, v]

/-- A setting that lists some words, unless there are none. -/
def wordsSetting (name : String) (words : Value) : Except Misfit (List Value) := do
  if words.isTrue then return [setting name (.text (← words.joined " "))]
  else return []

/-- Compiling and linking sets the arguments of the linker and the frameworks. -/
def compilation (q : Request) : Except Misfit Value := do
  let arguments ← wordsSetting TargetAssembly.Registry.linkerSetting
    (← (q.argument "link_config").part "extra_link_args")
  let frameworks ← wordsSetting TargetAssembly.Registry.frameworksSetting
    (← (q.argument "library").part "sdk_frameworks")
  return .record "CompileLinkResult" [
    ("files", .tuple []),
    ("settings", .tuple (arguments ++ frameworks)),
    ("diagnostics", .tuple [])]

/-- The diagnostic that a bundle is asked for in another format than the one it is linked for, if
that is so. -/
def formatMismatch (format linked : Value) : Except Misfit (List Diagnostic) := do
  if format.sameKey linked then return []
  return [TargetAssembly.Registry.mismatchOf (← format.written) (← linked.written)]

/-- Packaging makes the package and the debug symbols. -/
def bundle (q : Request) : Except Fault Value := do
  let format := q.argument "bundle_format"
  let linked ← ((q.argument "link_config").part "bundle_format").mapError .misfit
  let diagnostics ← (formatMismatch format linked).mapError .misfit
  let a ← (named q.target).mapError .misfit
  let symbols ← (q.argument "dsym_output_type").plain.mapError .misfit
  let some template := format.string? | throw (.misfit (.noPart format.typeName "format"))
  let directory ← (Template.fill template a.name).mapError .template
  return .record "BundlingResult" [
    ("bundle_dir", .text directory),
    ("files", .ofArtifacts [TargetAssembly.Registry.packageOf a,
      TargetAssembly.Registry.symbolsNamed a symbols]),
    ("settings", .tuple [setting TargetAssembly.Registry.minimumOsSetting
      (q.argument "minimum_os")]),
    ("diagnostics", Diagnostic.listToValue diagnostics)]

/-! ## Resources -/

/-- All resources that a target declares. -/
def declaredResources (target : Value) : Except Misfit (List Value) := do
  let resources ← (← target.part "resources").listed
  let storyboards ← (← target.part "storyboards").listed
  return resources ++ storyboards ++ (← (← target.part "xcdatamodels").listed)

/-- The keys that occur more than once in a list, each once, in ascending order.  All of them
have to be comparable, also those that occur once. -/
def repeated (keys : List Value) : Except Misfit (List Value) := do
  let sorted ← Sorting.sort Value.less (← Value.distinct keys)
  return sorted.filter fun k => 1 < keys.countP (·.sameKey k)

/-- A diagnostic for each resource that is declared more than once. -/
def resourceReport (q : Request) : Except Misfit Value := do
  let repeated ← repeated (← declaredResources q.target)
  let diagnostics ← repeated.mapM fun r => do
    return TargetAssembly.Registry.repetitionOf (← r.written)
  return ({ diagnostics } : ResourceReport).toValue

/-! ## Projects and tests -/

/-- The project of a target, and its file. -/
def projectExport (q : Request) : Except Misfit Value := do
  let label ← q.target.part "label"
  let bundles ← (← q.target.part "bundles").listed
  let dependencies := bundles ++ (← (← q.target.part "deps").listed)
  let project := Value.record "XcodeInfo" [
    ("label", label),
    ("product_type", q.argument "product_type"),
    ("test_host", q.argument "test_host"),
    ("dependencies", .tuple dependencies),
    ("non_propagated_dependencies", ← q.target.part "non_propagated_deps"),
    ("settings", q.argument "settings")]
  return .record "IdeProjectResult" [
    ("xcode", project),
    ("files", .ofArtifacts [TargetAssembly.Registry.projectFile (← named q.target)])]

/-- The notes that compiling a source for coverage leaves. -/
def coverageNotes (a : TestTarget) (source : Value) : Except Misfit Artifact := do
  return TargetAssembly.Registry.coverageNotes a { path := ← fileName source }

/-- How the tests of a target reach a device. -/
def testRunner (target : Value) : Except Misfit Value := do
  return .record "TestRunnerInfo" [
    ("runner", .artifact testRunnerTool),
    ("target_device", ← target.part "ios_test_target_device"),
    ("device_args", ← target.part "ios_device_arg"),
    ("plugins", ← target.part "plugins")]

/-- The files that coverage looks at, and the tool that gathers it. -/
def coverage (target : Value) (a : TestTarget) : Except Misfit (InstrumentedFiles × Value) := do
  let sources ← sourcesOf target
  let notes ← sources.mapM (coverageNotes a)
  let files : InstrumentedFiles :=
    { instrumented := .ofList (sources.filterMap Value.artifact?), metadata := .ofList notes }
  return (files, .record "CoverageToolInfo" [
    ("tool", .artifact coverageGatherer), ("instrumented_sources", .tuple sources)])

/-- What is needed to run the tests of a target. -/
def testSupport (q : Request) : Except Misfit Value := do
  let configuration := q.argument "config"
  let a ← named q.target
  let script := TargetAssembly.Registry.testScript a
  let runfiles := Value.record "Runfiles" [
    ("workspace_name", ← configuration.part "workspace_name"),
    ("artifacts", .artifacts (.ofList [script, testRunnerTool,
      TargetAssembly.Registry.packageOf a])),
    ("executable", .artifact script),
    ("legacy_external_runfiles", ← configuration.part "legacy_external_runfiles")]
  let runner ← testRunner q.target
  let (instrumented, tools) ←
    if (← configuration.part "coverage_enabled").isTrue then do
      let (files, tool) ← coverage q.target a
      pure (files, [tool])
    else pure ({}, [])
  return .record "TestSupportResult" [
    ("executable", .artifact script),
    ("runfiles", runfiles),
    ("instrumented", instrumented.toValue),
    ("files", .ofArtifacts [script]),
    ("extras", .tuple (runner :: tools))]

/-! ## The answer -/

/-- The answer to a request, made part by part. -/
def answerByParts (r : Registry) (q : Request) : Except Fault Value :=
  let fit (answer : Except Misfit Value) : Except Fault Value := answer.mapError .misfit
  match q.operation with
  | .hostApp => fit (r.hostOf q.target)
  | .memleaksLibrary => .ok r.memleaks
  | .commonLibrary => fit (r.commonLibrary q)
  | .compilation => fit (compilation q)
  | .bundle => bundle q
  | .resourceReport => fit (resourceReport q)
  | .projectExport => fit (projectExport q)
  | .testSupport => fit (testSupport q)

/-- The answer of a registry to a request. -/
def answer (r : Registry) (q : Request) : Except Fault Value :=
  match r.typed?, q.typed? with
  | some registry, some request =>
    ((registry.answer request).map request.operation.answerValue).mapError .ofTyped
  | _, _ => r.answerByParts q

end Registry

end TargetAssembly.Untyped
