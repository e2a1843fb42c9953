import TargetAssembly.Configuration.Basic
import TargetAssembly.Contribution
import TargetAssembly.Library
import TargetAssembly.Log
import TargetAssembly.Problem.Basic
import TargetAssembly.Resolver.Answer
import TargetAssembly.Resolver.Request

/-!
# Assembling the description of a target

`assemble` asks for all that a target needs and merges the answers into one description.  What a
user can mend is reported and does not stop the build, so that one run shows every problem; a
hosted unit test without its host is not linked or packaged, and everything else is still made.
A contradiction between the answers stops the build.
-/

namespace TargetAssembly

/-!
## The progress of a build

A build makes requests, reports diagnostics and writes a log.  `Assembly` is a computation that
does so and ends with a value or a fault; after a fault the progress made so far is kept.  Its
steps only ever add to the progress: `ask`, `report` and `note`.  The lemmas on `runFrom` say what
each of them adds.
-/

/-- What a build has done so far. -/
structure Progress where
  /-- The requests made, the oldest first. -/
  requests : List Request := []
  /-- The diagnostics reported. -/
  ledger : DiagnosticLedger := {}
  /-- The log. -/
  log : Log := {}

/-- A computation that makes progress and ends with a value or a fault. -/
abbrev Assembly := ExceptT Fault (StateM Progress)

namespace Assembly

/-- Run a computation from given progress. -/
def runFrom {α : Type} (p : Progress) (m : Assembly α) : Except Fault α × Progress :=
  StateT.run (ExceptT.run m) p

/-- Make a request.  It counts as made even if it is answered by a fault. -/
def ask (r : Resolver) (q : Request) : Assembly q.Answer := do
  modify fun p => { p with requests := p.requests ++ [q] }
  match r.answer q with
  | .ok a => return a
  | .error e => throw e

/-- Report diagnostics about a target. -/
def report (label : String) (ds : List Diagnostic) : Assembly Unit :=
  modify fun p => { p with ledger := p.ledger.reportAll label ds }

/-- Report problems of a target. -/
def reportProblems (label : String) (ps : List Problem) : Assembly Unit :=
  modify fun p => { p with ledger := p.ledger.reportProblems label ps }

/-- The name of the operation under which a build writes its log. -/
def operationName : String := "assemble"

/-- Note in the log what a stage of the build of a target came to. -/
def note (label stage message : String) (extra : List (String × Value) := []) : Assembly Unit :=
  modify fun p => { p with
    log := p.log.add (.info operationName (some label) (some stage) message
      (extra.map fun e => (.text e.1, e.2))) }

/-- Note in the log the problems that a stage of the build of a target met. -/
def noteProblems (label stage : String) (ps : List Problem) : Assembly Unit :=
  modify fun p => { p with
    log := ps.foldl
      (fun l q => l.add (.failure operationName (some label) (some stage) q)) p.log }

/-- How many errors are reported about a target. -/
def errorCount (label : String) : Assembly Nat := do
  return ((← get).ledger.errorsAbout label).length

/-! ### What each step does to the progress -/

@[simp] theorem runFrom_pure {α : Type} (p : Progress) (x : α) :
    runFrom p (pure x) = (.ok x, p) := rfl

@[simp] theorem runFrom_throw {α : Type} (p : Progress) (e : Fault) :
    runFrom p (throw e : Assembly α) = (.error e, p) := rfl

@[simp] theorem runFrom_bind {α β : Type} (p : Progress) (m : Assembly α) (f : α → Assembly β) :
    runFrom p (m >>= f) = match runFrom p m with
      | (.ok x, q) => runFrom q (f x)
      | (.error e, q) => (.error e, q) := by
  simp only [runFrom, ExceptT.run_bind, StateT.run_bind]
  cases StateT.run (ExceptT.run m) p with
  | mk result q => cases result <;> rfl

@[simp] theorem runFrom_ask (p : Progress) (r : Resolver) (q : Request) :
    runFrom p (ask r q) = (r.answer q, { p with requests := p.requests ++ [q] }) := by
  simp only [ask, runFrom_bind]
  cases r.answer q <;> simp [runFrom] <;> rfl

@[simp] theorem runFrom_report (p : Progress) (label : String) (ds : List Diagnostic) :
    runFrom p (report label ds) = (.ok (), { p with ledger := p.ledger.reportAll label ds }) := rfl

@[simp] theorem runFrom_reportProblems (p : Progress) (label : String) (ps : List Problem) :
    runFrom p (reportProblems label ps) =
      (.ok (), { p with ledger := p.ledger.reportProblems label ps }) := rfl

@[simp] theorem runFrom_errorCount (p : Progress) (label : String) :
    runFrom p (errorCount label) = (.ok (p.ledger.errorsAbout label).length, p) := rfl

end Assembly

end TargetAssembly

namespace TargetAssembly.Validation

/-!
## Validation of a target

A test target needs at least one source, and is built for one architecture at a time.  What is
wrong is returned as a list of problems, not raised, so that all of it can be reported at once.
-/

/-- The problem that nothing is compiled for a target. -/
def noSources : Problem :=
  { kind := .requiresSource
    message := requiresSourceMessage
    hint := some "Add at least one file to `srcs` or `non_arc_srcs`."
    context := [("operation", "check_sources")] }

/-- The problem that several architectures, which a text lists, are asked for at once. -/
def tooManyArchitectures (names : String) : Problem :=
  { kind := .noMultiArch
    message := noMultiArchMessage
    hint := some "Pass a single architecture in `ios_multi_cpus` or leave it empty."
    context := [("operation", "check_single_architecture"), ("architectures", names)] }

/-- What stands between the architectures in a list of them. -/
def architectureSeparator : String := ","

/-- The problem that nothing is compiled for a target, if that is so. -/
def missingSources (c : CommonLibrary) : Option Problem :=
  if c.hasArchive then none else some noSources

/-- The problem that several architectures are asked for at once, if that is so. -/
def severalArchitectures (c : Configuration) : Option Problem :=
  if c.architectures.length ≤ 1 then none
  else some (tooManyArchitectures (architectureSeparator.intercalate c.architectures))

/-- All that is wrong with a target: its sources first, then its architectures. -/
def problems (l : CommonLibrary) (c : Configuration) : List Problem :=
  (missingSources l).toList ++ (severalArchitectures c).toList

end TargetAssembly.Validation

namespace TargetAssembly.Assembly

variable (r : Resolver) (a : TestTarget) (c : Configuration)

/-! ## Stages -/

/-- The host application, which only a hosted unit test has. -/
def findHost : Assembly (Option HostApp) :=
  match a.mode with
  | .hostedUnitTest => ask r (.hostApp a)
  | .application => return none

/-- The libraries that the target links besides those that it names: that of its host, and the
one that looks for leaks. -/
def furtherLibraries (host : Option HostApp) : Assembly (List Library) := do
  let ofHost := (host.map (·.library)).toList
  if c.runMemleaks then return ofHost ++ [← ask r (.memleaksLibrary a)]
  else return ofHost

/-- The common library. -/
def findCommon (host : Option HostApp) : Assembly CommonLibrary := do
  let libraries ← furtherLibraries r a c host
  let common ← ask r (.commonLibrary a a.mode.sdkFrameworks libraries)
  note a.label "common" "resolved common library" [("has_archive", .bool common.hasArchive)]
  return common

/-- Report what is wrong with the target. -/
def validate (common : CommonLibrary) : Assembly Unit := do
  let ps := Validation.problems common c
  reportProblems a.label ps
  noteProblems a.label "validate" ps

/-- How the target is linked; a missing host is reported, and the target is then not linked. -/
def findLink (host : Option HostApp) : Assembly (Option LinkPlan) :=
  match (LinkPlan.forMode (.known a.mode) (pure host) a.hostLabel : Id _) with
  | .ok link => do
    note a.label "link" "derived link configuration" [("args", .ofTexts link.extraLinkArgs)]
    return some link
  | .error (.missingHost hostLabel) => do
    let p := (LinkFault.missingHost hostLabel).problem
    reportProblems a.label [p]
    noteProblems a.label "link" [p]
    return none
  | .error fault => throw (.problem fault.problem)

/-- What linking and packaging adds to a build. -/
structure Linked where
  /-- The contributions. -/
  contributions : List Contribution := []
  /-- The settings for the project. -/
  settings : Settings := []

/-- A contribution of nothing but files. -/
def filesFrom (source : String) (files : List Artifact) : Contribution :=
  { source, files := .ofList files }

/-- Link and package a target whose host, if it has one, is found. -/
def linkAndBundle (host : Option HostApp) (common : CommonLibrary) (link : LinkPlan) :
    Assembly Linked := do
  let compiled ← ask r (.compilation a common.library link link.extraLinkInputs .test)
  report a.label compiled.diagnostics
  let bundled ← ask r (.bundle a common.library link link.bundleFormat c.minimumOs .test)
  report a.label bundled.diagnostics
  note a.label "bundle" ("bundle directory is " ++ bundled.directory)
  return {
    contributions :=
      (host.map fun h => filesFrom "host_app" [h.ipa]).toList ++
      [filesFrom "compile_and_link" compiled.files, filesFrom "release_bundling" bundled.files]
    settings := compiled.settings ++ bundled.settings }

/-- Link and package a target unless its host is missing. -/
def linkIfPossible (host : Option HostApp) (common : CommonLibrary) : Assembly Linked := do
  match ← findLink a host with
  | some link => linkAndBundle r a c host common link
  | none => return {}

/-- How a test target is to be run: on a machine with the right system. -/
def executionInfo : ExecutionInfo := { requirements := [("requires-darwin", "")] }

/-- The contribution of a project. -/
def fromProject (p : ProjectExport) : Contribution :=
  { source := "ide_project", files := .ofList p.files, capabilities := [p.project] }

/-- The contribution of what is needed to run tests. -/
def fromTests (t : TestSupport) : Contribution :=
  { source := "test_support"
    files := .ofList t.files
    capabilities := [t.runfiles, t.instrumented]
    extras := t.extras
    executable := t.executable }

/-- The contribution that says how the target is to be run. -/
def fromExecution : Contribution :=
  { source := "execution_info", capabilities := [.capability (.executionInfo executionInfo)] }

/-- Merge contributions; a contradiction stops the build. -/
def merge (label : String) (contributions : List Contribution) : Assembly Description :=
  match Contribution.mergeAll label contributions with
  | .ok d => return d
  | .error (.suppliedTwice item first second) =>
    throw (.problem (Contribution.suppliedTwice label item first second))
  | .error (.noKind typeName) => throw (.misfit (Contribution.noKind typeName))

/-! ## The whole -/

/-- Assemble the description of a target. -/
def assemble : Assembly Description := do
  note a.label "classify" ("build mode is " ++ a.mode.text)
  let host ← findHost r a
  let common ← findCommon r a c host
  validate a c common
  let linked ← linkIfPossible r a c host common
  let resources ← ask r (.resourceReport a)
  report a.label resources.diagnostics
  let project ← ask r (.projectExport a common.library a.mode.productType
    (linked.settings ++ resources.settings).eraseDups
    (host.bind fun h => h.project.map (·.label)))
  let tests ← ask r (.testSupport a c)
  let description ← merge a.label <|
    filesFrom "resources" (ResourceArchive.all a common.library) :: linked.contributions ++
      [{ source := "resource_validation" }, fromProject project, fromTests tests, fromExecution]
  note a.label "aggregate" "assembled target description"
    [("files", .int description.filesToBuild.size), ("errors", .int (← errorCount a.label))]
  return description

end TargetAssembly.Assembly
