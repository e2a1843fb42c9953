import TargetAssembly.Resolver.Request
import TargetAssembly.Text.Quoted

/-!
# Answers from a registry

A registry knows host applications and libraries by their labels.  It answers every request from
what it knows and from the label of the target alone: no compiler or packager runs, and the files
of an answer have the names that real ones would have.
-/

namespace TargetAssembly

/-- The program that runs tests. -/
def testRunnerTool : Artifact := { path := "tools/objc/testrunner", root := "tools" }

/-- The program that gathers coverage. -/
def coverageGatherer : Artifact := { path := "tools/objc/mcov", root := "tools" }

/-- The library that stops a run at its end to look for leaks. -/
def memleaksLibrary : Library :=
  { linkedLibraries := [{ path := "tools/objc/memleaks/libmemleaks.a" }] }

/-- Host applications and libraries by their labels. -/
structure Registry where
  /-- The host applications. -/
  hosts : List (String × HostApp) := []
  /-- The libraries. -/
  libraries : List (String × Library) := []
  /-- The library that stops a run at its end to look for leaks. -/
  memleaks : Library := memleaksLibrary
deriving DecidableEq, Repr

namespace Registry

/-! ## What is known -/

/-- Register a host application under its label. -/
def addHost (r : Registry) (h : HostApp) : Registry :=
  { r with hosts := Keyed.set h.label h r.hosts }

/-- Register a library under a label. -/
def addLibrary (r : Registry) (label : String) (l : Library) : Registry :=
  { r with libraries := Keyed.set label l r.libraries }

/-- The host application of a target, if it names one that is registered. -/
def hostOf (r : Registry) (a : TestTarget) : Option HostApp :=
  a.hostLabel.bind fun label => r.hosts.lookup label

/-- The registered libraries among some labels, in the order of the labels. -/
def librariesOf (r : Registry) (labels : List String) : List Library :=
  labels.filterMap fun label => r.libraries.lookup label

/-! ## The common library -/

/-- The sources of a target: those that count references by themselves, then the others. -/
def sourcesOf (a : TestTarget) : List Artifact := (a.srcs ++ a.nonArcSrcs).map a.source

/-- The archive that the sources of a target are compiled to. -/
def libraryArchive (a : TestTarget) : Artifact := { path := a.objectPath ("lib" ++ a.name ++ ".a") }

/-- The archive of a target; without sources there is none. -/
def archiveOf (a : TestTarget) : Option Artifact :=
  if (sourcesOf a).isEmpty then none else some (libraryArchive a)

/-- What a target brings along by itself, with further frameworks. -/
def ownLibrary (a : TestTarget) (frameworks : List String) : Library :=
  { sdkFrameworks := a.sdkFrameworks ++ frameworks
    sources := sourcesOf a
    storyboards := a.storyboards.map a.source
    dataModels := a.dataModels.map a.source
    linkedLibraries := (archiveOf a).toList }

/-- The common library of a target: its own, those that it depends on, and further ones. -/
def commonLibrary (r : Registry) (a : TestTarget) (frameworks : List String)
    (libraries : List Library) : CommonLibrary :=
  { hasArchive := (archiveOf a).isSome
    library := (ownLibrary a frameworks).union (r.librariesOf a.deps ++ libraries) }

/-! ## Linking and packaging -/

/-- The name of the setting for the arguments of the linker. -/
def linkerSetting : String := "OTHER_LDFLAGS"

/-- The name of the setting for the frameworks. -/
def frameworksSetting : String := "SDK_FRAMEWORKS"

/-- A setting that lists some words, unless there are none. -/
def wordsSetting (name : String) (words : List String) : Settings :=
  if words.isEmpty then [] else [(name, " ".intercalate words)]

/-- Compiling and linking makes no files of its own; it sets the arguments of the linker and the
frameworks. -/
def compilation (library : Library) (link : LinkPlan) : Compilation :=
  { settings := wordsSetting linkerSetting link.extraLinkArgs ++
      wordsSetting frameworksSetting library.sdkFrameworks }

/-- The package of a target. -/
def packageOf (a : TestTarget) : Artifact := { path := a.outputPath ++ ".ipa" }

/-- The debug symbols of a target, under the name of what they are put out for. -/
def symbolsNamed (a : TestTarget) (name : String) : Artifact :=
  { path := a.outputPath ++ "." ++ name ++ ".dSYM" }

/-- The diagnostic that a bundle is asked for in another format than the one it is linked for.  Both
are given as messages quote them. -/
def mismatchOf (format linked : String) : Diagnostic :=
  { severity := .error
    message := "bundle format " ++ format ++ " does not match the link configuration's " ++ linked }

/-- The diagnostic that a bundle is asked for in another format than the one it is linked for, if
that is so. -/
def formatMismatch (format linked : String) : List Diagnostic :=
  if format = linked then [] else [mismatchOf (Text.quoted format) (Text.quoted linked)]

/-- The name of the setting for the least version of the system. -/
def minimumOsSetting : String := "IPHONEOS_DEPLOYMENT_TARGET"

/-- Packaging makes the package and the debug symbols. -/
def bundle (a : TestTarget) (link : LinkPlan) (format minimumOs : String)
    (symbols : SymbolOutput) : Except Template.Failure Bundle := do
  let directory ← Template.fill format a.name
  return {
    directory
    files := [packageOf a, symbolsNamed a symbols.text]
    settings := [(minimumOsSetting, minimumOs)]
    diagnostics := formatMismatch format link.bundleFormat }

/-! ## Resources -/

/-- The paths of all resources that a target declares. -/
def declaredResources (a : TestTarget) : List String :=
  a.resources ++ a.storyboards ++ a.dataModels

/-- The texts that occur more than once in a list, each once, in ascending order. -/
def repeated (paths : List String) : List String :=
  (paths.eraseDups.filter fun p => 1 < paths.count p).mergeSort fun p q => p ≤ q

/-- The diagnostic that a resource, given as messages quote it, is declared more than once. -/
def repetitionOf (resource : String) : Diagnostic :=
  { severity := .error, message := "resource " ++ resource ++ " is declared more than once" }

/-- The diagnostic that a resource is declared more than once. -/
def repeatedResource (path : String) : Diagnostic := repetitionOf (Text.quoted path)

/-- A diagnostic for each resource that is declared more than once. -/
def resourceReport (a : TestTarget) : ResourceReport :=
  { diagnostics := (repeated (declaredResources a)).map repeatedResource }

/-! ## Projects and tests -/

/-- The file of the project of a target. -/
def projectFile (a : TestTarget) : Artifact :=
  { path := a.outputPath ++ ".xcodeproj/project.pbxproj" }

/-- The project of a target, and its file. -/
def projectExport (a : TestTarget) (product : ProductType) (settings : Settings)
    (testHost : Option String) : ProjectExport :=
  { project := .capability (.ideProject {
      label := a.label
      productType := product
      testHost
      dependencies := a.bundles ++ a.deps
      nonPropagatedDependencies := a.nonPropagatedDeps
      settings })
    files := [projectFile a] }

/-- The script that runs the tests of a target. -/
def testScript (a : TestTarget) : Artifact := { path := a.outputPath ++ "_test_script" }

/-- The notes that compiling a source for coverage leaves. -/
def coverageNotes (a : TestTarget) (source : Artifact) : Artifact :=
  { path := a.objectPath
      (String.ofList (Text.beforeLast '.' source.fileName.toList) ++ ".gcno") }

/-- The files that the tests of a target need when they run. -/
def runfiles (a : TestTarget) (c : Configuration) : Runfiles :=
  { workspaceName := c.workspaceName
    artifacts := .ofList [testScript a, testRunnerTool, packageOf a]
    executable := some (testScript a)
    legacyExternalRunfiles := c.legacyExternalRunfiles }

/-- The files that coverage looks at; there are none unless it is gathered. -/
def instrumentedFiles (a : TestTarget) (c : Configuration) : InstrumentedFiles :=
  if c.coverageEnabled then
    { instrumented := .ofList (sourcesOf a)
      metadata := .ofList ((sourcesOf a).map (coverageNotes a)) }
  else {}

/-- How the tests of a target reach a device. -/
def testRunner (a : TestTarget) : TestRunner :=
  { runner := testRunnerTool
    targetDevice := a.targetDevice
    deviceArgs := a.deviceArgs
    plugins := a.plugins }

/-- The tool that gathers the coverage of a target, if it is gathered. -/
def coverageTool (a : TestTarget) (c : Configuration) : Option CoverageTool :=
  if c.coverageEnabled then
    some { tool := coverageGatherer, instrumentedSources := sourcesOf a }
  else none

/-- What is needed to run the tests of a target. -/
def testSupport (a : TestTarget) (c : Configuration) : TestSupport :=
  { executable := some (testScript a)
    runfiles := .capability (.runfiles (runfiles a c))
    instrumented := .capability (.instrumentedFiles (instrumentedFiles a c))
    files := [testScript a]
    extras := (testRunner a).toValue :: ((coverageTool a c).map CoverageTool.toValue).toList }

/-! ## The resolver -/

/-- The answer of a registry to a request. -/
def answer (r : Registry) : (q : Request) → Except Fault q.Answer
  | .hostApp a => .ok (r.hostOf a)
  | .memleaksLibrary _ => .ok r.memleaks
  | .commonLibrary a frameworks libraries => .ok (r.commonLibrary a frameworks libraries)
  | .compilation _ library link _ _ => .ok (compilation library link)
  | .bundle a _ link format minimumOs symbols =>
    (bundle a link format minimumOs symbols).mapError .template
  | .resourceReport a => .ok (resourceReport a)
  | .projectExport a _ product settings testHost => .ok (projectExport a product settings testHost)
  | .testSupport a c => .ok (testSupport a c)

/-- The resolver that answers from a registry. -/
def resolver (r : Registry) : Resolver := ⟨r.answer⟩

end Registry

end TargetAssembly
