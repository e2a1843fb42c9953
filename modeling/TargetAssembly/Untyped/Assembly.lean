import TargetAssembly.Assembly
import TargetAssembly.Untyped.Configuration
import TargetAssembly.Untyped.Description
import TargetAssembly.Untyped.Record
import TargetAssembly.Untyped.Registry
import TargetAssembly.Untyped.Target

/-!
# Assembling from values of any type

The stages of a build where targets, configurations and answers may be of any type.  They are those
of `Assembly.assemble`, in the same order; each asks for the parts that it needs when it needs them,
so that a value that does not fit its use stops the build there, and all progress made until then is
kept.
-/

namespace TargetAssembly.Untyped

/-- What a build has done so far. -/
structure Progress where
  /-- The requests that the registry answered, the oldest first. -/
  calls : List Call := []
  /-- What was reported. -/
  ledger : Ledger := {}
  /-- What was noted. -/
  log : Log := {}

/-- A computation that makes progress and ends with a value or a fault. -/
abbrev Assembly := ExceptT Fault (StateM Progress)

/-- Answers that take the place of those of a registry, or faults. -/
abbrev Substitutes := List (Operation × Except Fault Value)

/-- A registry, and what takes the place of its answers. -/
structure Resolver where
  /-- What requests are answered from. -/
  registry : Registry
  /-- What takes the place of answers. -/
  substitutes : Substitutes := []

namespace Assembly

/-! ## Steps -/

/-- A computation with a value that may not fit its use. -/
def fit {α : Type} (a : Except Misfit α) : Assembly α := ExceptT.mk (pure (a.mapError .misfit))

/-- A part of a value. -/
def part (v : Value) (name : String) : Assembly Value := fit (v.part name)

/-- The items that a part of a value has. -/
def itemsOfPart (v : Value) (name : String) : Assembly (List Value) :=
  fit do (← v.part name).items

/-- Make a request.  It is recorded before it is answered, unless a substitute answers it. -/
def ask (r : Resolver) (o : Operation) (given : List (String × Value)) : Assembly Value :=
  let q : Request := { operation := o, given }
  match r.substitutes.lookup o with
  | some answer => ExceptT.mk (pure answer)
  | none => do
    let arguments ← fit q.recorded
    modify fun p => { p with calls := p.calls ++ [⟨o, arguments⟩] }
    ExceptT.mk (pure (r.registry.answer q))

/-- Report something about a target.  The target is listed even if there are no items to report. -/
def reportItems (label reports : Value) : Assembly Unit := do
  let ledger ← fit ((← get).ledger.reportAll label [])
  modify fun p => { p with ledger }
  let reports ← fit reports.items
  let ledger ← fit ((← get).ledger.reportAll label reports)
  modify fun p => { p with ledger }

/-- Report problems of a target. -/
def reportProblems (label : Value) (ps : List Problem) : Assembly Unit := do
  let ledger ← fit ((← get).ledger.reportProblems label ps)
  modify fun p => { p with ledger }

/-- Add an entry to the log. -/
def addEntry (entry : Value) : Assembly Unit := modify fun p => { p with log := p.log.add entry }

/-- The name of the operation, as the log has it. -/
def operationName : Value := .text TargetAssembly.Assembly.operationName

/-- Note in the log what a stage of the build of a target came to. -/
def note (label : Value) (stage message : String) (extra : List (String × Value) := []) :
    Assembly Unit :=
  addEntry (Log.info operationName label (.text stage) (.text message)
    (extra.map fun e => (.text e.1, e.2)))

/-- Note in the log the problems that a stage of the build of a target met. -/
def noteProblems (label : Value) (stage : String) (ps : List Problem) : Assembly Unit :=
  ps.forM fun p => addEntry (Log.failure operationName label (.text stage) p)

/-! ## Stages -/

/-- A target and what is needed to build it. -/
structure Job where
  /-- What answers requests. -/
  resolver : Resolver
  /-- The target. -/
  target : Value
  /-- The configuration of the build. -/
  configuration : Value
  /-- The label of the target. -/
  label : Value
  /-- The mode in which the target is built. -/
  mode : BuildMode

variable (j : Job)

/-- Make a request for the target. -/
def Job.ask (o : Operation) (given : List (String × Value) := []) : Assembly Value :=
  Assembly.ask j.resolver o ((Request.targetName, j.target) :: given)

/-- The host application, which only a hosted unit test has. -/
def findHost : Assembly (Option Value) :=
  match j.mode with
  | .hostedUnitTest => do
    match ← j.ask .hostApp with
    | .null => return none
    | host => return some host
  | .application => return none

/-- The libraries that the target links besides those that it names. -/
def furtherLibraries (host : Option Value) : Assembly (List Value) := do
  let ofHost ← match host with
    | some h => do pure [← part h "library"]
    | none => pure []
  if (← part j.configuration "run_memleaks").isTrue then
    return ofHost ++ [← j.ask .memleaksLibrary]
  else return ofHost

/-- The common library. -/
def findCommon (host : Option Value) : Assembly Value := do
  let libraries ← furtherLibraries j host
  let common ← j.ask .commonLibrary [
    ("extra_frameworks", .ofTexts j.mode.sdkFrameworks), ("extra_libraries", .tuple libraries)]
  note j.label "common" "resolved common library"
    [("has_archive", ← part common "has_compiled_archive")]
  return common

/-- Report what is wrong with the target. -/
def validate (common : Value) : Assembly Unit := do
  let ps := (← fit (problems common j.configuration)).map Problem.ofTyped
  reportProblems j.label ps
  noteProblems j.label "validate" ps

/-- How the target is linked; a missing host is reported, and the target is then not linked. -/
def findLink (host : Option Value) : Assembly (Option Value) := do
  let hostLabel ← part j.target "xctest_app"
  let link (plan : Value) : Assembly (Option Value) := do
    note j.label "link" "derived link configuration" [("args", ← part plan "extra_link_args")]
    return some plan
  match j.mode, host with
  | .application, _ => link LinkPlan.forApplication.toValue
  | .hostedUnitTest, some h => do link (← fit (planForHost h))
  | .hostedUnitTest, none => do
    let p := missingHost hostLabel
    reportProblems j.label [p]
    noteProblems j.label "link" [p]
    return none

/-- What linking and packaging adds to a build. -/
structure Linked where
  /-- The contributions. -/
  contributions : List Contribution := []
  /-- The settings for the project. -/
  settings : List Value := []

/-- A contribution of nothing but files. -/
def filesFrom (source : String) (files : Value) : Assembly Contribution := do
  return { source, files := ← fit (Contribution.filesOf files) }

/-- Report the diagnostics of an answer, and take its settings. -/
def settingsOf (answer : Value) : Assembly (List Value) := do
  reportItems j.label (← part answer "diagnostics")
  itemsOfPart answer "settings"

/-- Link and package a target whose host, if it has one, is found. -/
def linkAndBundle (host : Option Value) (common link : Value) : Assembly Linked := do
  let fromHost ← match host with
    | some h => do pure [← filesFrom "host_app" (.tuple [← part h "ipa"])]
    | none => pure []
  let symbols := ("dsym_output_type", SymbolOutput.test.toValue)
  let library ← part common "library"
  let compiled ← j.ask .compilation [("library", library), ("link_config", link),
    ("extra_inputs", ← part link "extra_link_inputs"), symbols]
  let settings ← settingsOf j compiled
  let fromCompiled ← filesFrom "compile_and_link" (← part compiled "files")
  let bundled ← j.ask .bundle [("library", library), ("link_config", link),
    ("bundle_format", ← part link "bundle_format"),
    ("minimum_os", ← part j.configuration "minimum_os"), symbols]
  let settings := settings ++ (← settingsOf j bundled)
  let fromBundled ← filesFrom "release_bundling" (← part bundled "files")
  let directory ← part bundled "bundle_dir"
  note j.label "bundle" ("bundle directory is " ++ (← fit directory.plain))
  return { contributions := fromHost ++ [fromCompiled, fromBundled], settings }

/-- The label of the project that opens a host. -/
def testHostOf (host : Option Value) : Assembly Value := do
  match host with
  | none => return .null
  | some h =>
    match ← part h "xcode" with
    | .null => return .null
    | project => part project "label"

/-- Make the project. -/
def exportProject (host : Option Value) (common : Value) (settings : List Value) :
    Assembly Contribution := do
  let library ← part common "library"
  let settings ← fit (Value.distinct settings)
  let answer ← j.ask .projectExport [("library", library),
    ("product_type", j.mode.productType.toValue), ("settings", .tuple settings),
    ("test_host", ← testHostOf host)]
  let files ← part answer "files"
  let project ← part answer "xcode"
  return { ← filesFrom "ide_project" files with capabilities := [project] }

/-- Make what is needed to run the tests. -/
def supportTests : Assembly Contribution := do
  let answer ← j.ask .testSupport [("config", j.configuration)]
  let files ← part answer "files"
  let runfiles ← part answer "runfiles"
  let instrumented ← part answer "instrumented"
  let extras ← part answer "extras"
  let executable ← part answer "executable"
  let c ← filesFrom "test_support" files
  return { c with
    capabilities := [runfiles, instrumented]
    extras := ← fit extras.items
    executable := match executable with
      | .null => none
      | v => some v }

/-- The contribution that says how the target is to be run. -/
def fromExecution : Contribution :=
  { source := "execution_info", capabilities := [TargetAssembly.Assembly.executionInfo.toValue] }

/-! ## The whole -/

/-- Assemble the description of a target stage by stage. -/
def run : Assembly Description := do
  note j.label "classify" ("build mode is " ++ j.mode.text)
  let host ← findHost j
  let common ← findCommon j host
  validate j common
  let archives ← fit (archives j.target (← part common "library"))
  let linked ← match ← findLink j host with
    | some link => linkAndBundle j host common link
    | none => pure {}
  let resources ← j.ask .resourceReport
  let settings := linked.settings ++ (← settingsOf j resources)
  let project ← exportProject j host common settings
  let tests ← supportTests j
  let description ← ExceptT.mk (pure (Contribution.mergeAll j.label
    ({ source := "resources", files := archives.map .artifact } :: linked.contributions ++
      [{ source := "resource_validation" }, project, tests, fromExecution])))
  let errors ← fit ((← get).ledger.errorsAbout j.label)
  note j.label "aggregate" "assembled target description"
    [("files", .int description.files.length), ("errors", .int errors.length)]
  return description

end Assembly

/-- Assemble the description of a target, with given answers, from values of any type. -/
def assembleByParts (r : Resolver) (target configuration : Value) : Assembly Description := do
  let label ← Assembly.part target "label"
  let mode ← Assembly.fit (modeOf target)
  Assembly.run { resolver := r, target, configuration, label, mode }

end TargetAssembly.Untyped
