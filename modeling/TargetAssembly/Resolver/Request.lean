import TargetAssembly.Configuration.Basic
import TargetAssembly.Library
import TargetAssembly.LinkPlan
import TargetAssembly.Problem.Basic
import TargetAssembly.Resolver.Answer
import TargetAssembly.Template.Fill
import TargetAssembly.TestTarget
import TargetAssembly.Value.Misfit

/-!
# Requests to the systems around a build

A build asks the systems around it for eight operations and stops where one of them fails.
-/

namespace TargetAssembly

/-!
## Faults

A build stops at the first thing that it can neither mend nor report: a problem that is raised, a
template that cannot be filled, or a value that does not fit its use.
-/

/-- Why a build stops. -/
inductive Fault where
  /-- A problem that was raised and not reported. -/
  | problem (p : Problem)
  /-- The template of the directory of a bundle cannot be filled. -/
  | template (f : Template.Failure)
  /-- A value does not fit its use. -/
  | misfit (m : Misfit)

/-!
## Operations

A build asks the systems around it for eight operations.  `Operation.Answer` is the type of what an
operation answers; an answer is viewed as a value by `Operation.answerValue` and read back by
`Operation.readAnswer?`.
-/

/-- What a build asks for. -/
inductive Operation where
  /-- Which application hosts the tests of a target? -/
  | hostApp
  /-- Which library stops a run at its end to look for leaks? -/
  | memleaksLibrary
  /-- Which library do the sources and the dependencies of a target make up? -/
  | commonLibrary
  /-- Compile and link a library. -/
  | compilation
  /-- Package a library in a bundle. -/
  | bundle
  /-- Look at the resources of a target. -/
  | resourceReport
  /-- Make the project that opens a target. -/
  | projectExport
  /-- Make what is needed to run the tests of a target. -/
  | testSupport
deriving DecidableEq, Repr

namespace Operation

/-- The name under which an operation is recorded. -/
def name : Operation → String
  | hostApp => "lookup_host_app"
  | memleaksLibrary => "lookup_memleaks_library"
  | commonLibrary => "resolve_common_library"
  | compilation => "register_compile_and_link"
  | bundle => "register_release_bundling"
  | resourceReport => "register_resource_validation"
  | projectExport => "register_ide_project_export"
  | testSupport => "register_test_support"

/-- All operations. -/
def all : List Operation :=
  [hostApp, memleaksLibrary, commonLibrary, compilation, bundle, resourceReport, projectExport,
    testSupport]

/-- The operation with a given name. -/
def named? (name : String) : Option Operation := all.find? (·.name == name)

/-- The type of the answer to an operation. -/
abbrev Answer : Operation → Type
  | hostApp => Option HostApp
  | memleaksLibrary => Library
  | commonLibrary => CommonLibrary
  | compilation => Compilation
  | bundle => Bundle
  | resourceReport => ResourceReport
  | projectExport => ProjectExport
  | testSupport => TestSupport

/-- An answer as a value. -/
def answerValue : (o : Operation) → o.Answer → Value
  | hostApp, a => (a.map HostApp.toValue).getD .null
  | memleaksLibrary, a => a.toValue
  | commonLibrary, a => a.toValue
  | compilation, a => a.toValue
  | bundle, a => a.toValue
  | resourceReport, a => a.toValue
  | projectExport, a => a.toValue
  | testSupport, a => a.toValue

/-- A value as an answer. -/
def readAnswer? : (o : Operation) → Value → Option o.Answer
  | hostApp => Value.option? HostApp.ofValue?
  | memleaksLibrary => Library.ofValue?
  | commonLibrary => CommonLibrary.ofValue?
  | compilation => Compilation.ofValue?
  | bundle => Bundle.ofValue?
  | resourceReport => ResourceReport.ofValue?
  | projectExport => ProjectExport.ofValue?
  | testSupport => TestSupport.ofValue?

end Operation

/-!
## Requests

A `Request` asks for an operation with all that is handed over for it, and a `Resolver` answers
every request, or fails with a fault.
-/

/-- A question of a build to the systems around it. -/
inductive Request where
  /-- Which application hosts the tests of a target? -/
  | hostApp (target : TestTarget)
  /-- Which library stops a run at its end to look for leaks? -/
  | memleaksLibrary (target : TestTarget)
  /-- Which library do the sources of a target make up, with further frameworks and libraries? -/
  | commonLibrary (target : TestTarget) (frameworks : List String) (libraries : List Library)
  /-- Compile and link a library, with further inputs for the linker. -/
  | compilation (target : TestTarget) (library : Library) (link : LinkPlan)
      (inputs : List Artifact) (symbols : SymbolOutput)
  /-- Package a library in a bundle whose directory has a given template. -/
  | bundle (target : TestTarget) (library : Library) (link : LinkPlan)
      (format minimumOs : String) (symbols : SymbolOutput)
  /-- Look at the resources of a target. -/
  | resourceReport (target : TestTarget)
  /-- Make the project that opens a target. -/
  | projectExport (target : TestTarget) (library : Library) (product : ProductType)
      (settings : Settings) (testHost : Option String)
  /-- Make what is needed to run the tests of a target. -/
  | testSupport (target : TestTarget) (configuration : Configuration)
deriving DecidableEq, Repr

namespace Request

/-- The operation that a request asks for. -/
abbrev operation : Request → Operation
  | hostApp _ => .hostApp
  | memleaksLibrary _ => .memleaksLibrary
  | commonLibrary .. => .commonLibrary
  | compilation .. => .compilation
  | bundle .. => .bundle
  | resourceReport _ => .resourceReport
  | projectExport .. => .projectExport
  | testSupport .. => .testSupport

/-- The type of the answer to a request. -/
abbrev Answer (q : Request) : Type := q.operation.Answer

/-- The arguments that are recorded with a request, under their names. -/
def arguments : Request → List (String × Value)
  | hostApp target => [("xctest_app", .ofText? target.hostLabel)]
  | memleaksLibrary _ => []
  | commonLibrary _ frameworks libraries =>
    [("extra_frameworks", .ofTexts frameworks),
      ("extra_libraries", .tuple (libraries.map Library.toValue))]
  | compilation _ _ link inputs symbols =>
    [("link_config", link.toValue), ("extra_inputs", .ofArtifacts inputs),
      ("dsym_output_type", symbols.toValue)]
  | bundle _ _ link format minimumOs symbols =>
    [("link_config", link.toValue), ("bundle_format", .text format),
      ("minimum_os", .text minimumOs), ("dsym_output_type", symbols.toValue)]
  | resourceReport _ => []
  | projectExport _ _ product settings testHost =>
    [("product_type", product.toValue), ("settings", .ofTextPairs settings),
      ("test_host", .ofText? testHost)]
  | testSupport _ configuration => [("config", configuration.toValue)]

end Request

/-- What answers requests. -/
structure Resolver where
  /-- The answer to a request. -/
  answer : (q : Request) → Except Fault q.Answer

end TargetAssembly
