import TargetAssembly.Library
import TargetAssembly.LinkPlan
import TargetAssembly.RecordType
import TargetAssembly.TestTarget
import TargetAssembly.Untyped.Problem

/-!
# Targets of any type

A target may be stated as a value whose parts are of other types than those of a test target.  What
a build needs of it is asked for part by part.  Names and paths follow from the label alone, so
`named` gives the test target that has just the label, and what is known of paths is known of it.

`declare` reads a declaration as `TestTarget.ofDeclaration` does, and keeps every list and label as
it is stated: a member of an enumeration that stands for a text remains one.
-/

namespace TargetAssembly.Untyped

/-- The text of a label from which names and paths follow. -/
def labelText : Value → Except Misfit String
  | .bytes _ => .error .textForBytes
  | label =>
    match label.string? with
    | some s => .ok s
    | none => .error (.noPart label.typeName "lstrip")

/-- The test target with the label of a target, which stands for its names and paths. -/
def named (target : Value) : Except Misfit TestTarget := do
  if !target.isRecord "TargetAttributes" then throw (.noPart target.typeName "package")
  return { label := ← labelText (← target.part "label") }

/-- The mode in which a target is built. -/
def modeOf (target : Value) : Except Misfit BuildMode := do
  return .ofHosted (← target.part "is_xctest").isTrue

/-! ## Files -/

/-- The name of the type of artifacts. -/
def artifactType : String := "Artifact"

/-- An artifact with a path and a root of any type; the root may be left out. -/
def artifactOf (path : Value) (root : Option Value := none) : Value :=
  match path, root with
  | .text path, none => .artifact { path }
  | .text path, some (.text root) => .artifact { path, root }
  | path, root =>
    let root := root.getD (.text RecordType.someArtifact.root)
    .record artifactType [("exec_path", path), ("root", root)]

/-- A source with a path of any type. -/
def sourceAt (path : Value) : Value :=
  match path.string? with
  | some s => .artifact { path := s, root := "src" }
  | none => artifactOf path (some (.text "src"))

/-- A source of a target. -/
def sourceOf (target path : Value) : Except Misfit Value := do
  let a ← named target
  if a.package.isEmpty then return sourceAt path
  return .artifact (a.source (← path.plain))

/-- The file name of an artifact, the path of which may be of any type. -/
def fileName (v : Value) : Except Misfit String :=
  match v with
  | .artifact a => .ok a.fileName
  | .record "Artifact" _ => do
    match ← v.part "exec_path" with
    | .bytes _ => throw .textForBytes
    | path => throw (.noPart path.typeName "rsplit")
  | _ => .error (.noPart v.typeName "basename")

/-! ## Declarations -/

/-- The attributes that list texts. -/
def listAttributes : List String := [
  "srcs", "non_arc_srcs", "hdrs", "deps", "bundles", "non_propagated_deps", "storyboards",
  "xcdatamodels", "resources", "sdk_frameworks", "plugins", "ios_device_arg"]

/-- The attributes that may be labels. -/
def labelAttributes : List String := ["xctest_app", "ios_test_target_device"]

/-- The value of a field as a declaration states it. -/
def restated (declared : List (String × Value)) (name : String) (read : Value) : Value :=
  match declared.lookup name with
  | some (.list items) => if listAttributes.contains name then .tuple items else read
  | some (.tuple items) => if listAttributes.contains name then .tuple items else read
  | some (.enumerated e) => if labelAttributes.contains name then .enumerated e else read
  | _ => read

/-- The problem that a malformed declaration of a target with a label of any type is, if what is
quoted has a text. -/
def malformed (label : Value) (m : TestTarget.Malformed) : Except Misfit Problem := do
  return (Problem.ofTyped (← m.problem "")).within "target" label

/-- Why a malformed declaration is refused: for the problem that it is, or because what the problem
would quote has no text. -/
def refusal (label : Value) (m : TestTarget.Malformed) : Fault :=
  match malformed label m with
  | .ok p => .problem p
  | .error misfit => .misfit misfit

/-- The target that a declaration gives, with its label, and with lists and labels as they are
stated. -/
def declare (label : Value) (declared : List (String × Value)) : Except Fault Value := do
  match (← (TestTarget.ofDeclaration "" declared).mapError (refusal label)).toValue with
  | .record type fields =>
    return .record type (fields.map fun f =>
      (f.1, if f.1 = "label" then label else restated declared f.1 f.2))
  | v => return v

/-!
## Host applications

The application that a target of a label makes, where the names of its frameworks may be of any
type.
-/

/-- A record with another value in one of its fields. -/
def withField (v : Value) (name : String) (w : Value) : Value :=
  match v with
  | .record type fields => .record type (fields.map fun f => if f.1 = name then (name, w) else f)
  | v => v

/-- The application that a target of a given label makes, with frameworks of its own. -/
def hostOfLabel (label : Value) (frameworks : List Value) : Except Misfit Value := do
  let h := HostApp.ofLabel (← labelText label) []
  let library := withField h.library.toValue "sdk_frameworks" (.tuple frameworks)
  return withField h.toValue "library" library

/-!
## Link plans

How a target is linked, where its host may be of any type.  Only the path of the binary of the host
is asked for.
-/

/-- The link plan against the binary of a host. -/
def planForHost (host : Value) : Except Misfit Value := do
  match HostApp.ofValue? host with
  | some h => return (LinkPlan.forHost h).toValue
  | none =>
    let binary ← host.part "linked_binary"
    let path ← binary.part "exec_path"
    return .record "LinkConfiguration" [
      ("extra_link_args", .tuple (LinkPlan.loaderArgs.map Value.text ++ [path])),
      ("extra_link_inputs", .tuple [binary]),
      ("bundle_format", .text xctestBundleFormat)]

/-- The problem that the host application of a unit test was not found.  Its label is named unless
it counts as false. -/
def missingHost (hostLabel : Value) : Problem :=
  (Problem.ofTyped (LinkFault.missingHost none).problem).within "xctest_app"
    (if hostLabel.isTrue then hostLabel else .text "")

/-- How a target is linked in a mode.  The host application is looked up at most once, and only
for a hosted unit test. -/
def planFor {m : Type → Type} [Monad m] (mode : RequestedMode) (lookup : m (Option Value))
    (hostLabel : Value) : m (Except Fault Value) :=
  match mode with
  | .known .application => pure (.ok LinkPlan.forApplication.toValue)
  | .known .hostedUnitTest => do
    match ← lookup with
    | some host => pure ((planForHost host).mapError .misfit)
    | none => pure (.error (.problem (missingHost hostLabel)))
  | .unknown text => pure (.error (.problem (.ofTyped (LinkFault.unknownMode text).problem)))

end TargetAssembly.Untyped
