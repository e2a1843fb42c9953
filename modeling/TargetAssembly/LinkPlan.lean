import TargetAssembly.Library
import TargetAssembly.Problem.Basic
import TargetAssembly.Template.Fill
import TargetAssembly.Value.Written

/-!
# Link plans

How a target is linked follows from its mode.  An application links as an ordinary program.  A
hosted unit test links as a bundle, so that it needs no entry point, and against the binary of
its host, so that missing symbols are found there; the host is looked up only then.
-/

namespace TargetAssembly

/-- The directory in which an application is bundled. -/
def appBundleFormat : String := "Payload/\x7bname\x7d.app"

/-- The directory in which a hosted unit test is bundled. -/
def xctestBundleFormat : String := "Payload/\x7bname\x7d.xctest"

/-- How a target is linked and bundled. -/
structure LinkPlan where
  /-- Further arguments of the linker. -/
  extraLinkArgs : List String := []
  /-- Further inputs of the linker. -/
  extraLinkInputs : List Artifact := []
  /-- The template of the directory of the bundle. -/
  bundleFormat : String := appBundleFormat
deriving DecidableEq, Repr

/-- A mode that was asked for: a mode of the build, or some other text. -/
inductive RequestedMode where
  /-- A mode of the build. -/
  | known (m : BuildMode)
  /-- Another text, for which there is no rule. -/
  | unknown (text : String)
deriving DecidableEq, Repr

/-- The mode that a value asks for. -/
def RequestedMode.ofValue (v : Value) : Except Misfit RequestedMode :=
  match BuildMode.ofValue? v with
  | some m => .ok (known m)
  | none => v.plain.map unknown

/-- Why a target cannot be linked. -/
inductive LinkFault where
  /-- The host application of a unit test was not found; its label may be known. -/
  | missingHost (hostLabel : Option String)
  /-- There is no rule for the mode. -/
  | unknownMode (text : String)
deriving DecidableEq, Repr

/-- A mode for which an operation has no rule. -/
def unhandledMode (text operation : String) : Problem :=
  { kind := .internalConsistency
    message := "Unhandled build mode."
    context := [("mode", text), ("operation", operation)] }

/-- The problem that a target cannot be linked. -/
def LinkFault.problem : LinkFault → Problem
  | missingHost hostLabel =>
    { kind := .missingHostApp
      message := "Hosted unit test has no resolvable host application."
      hint := some "Set `xctest_app` to an application target that exports a linked binary."
      context := [("operation", "derive_link_config"), ("xctest_app", hostLabel.getD "")] }
  | unknownMode text => unhandledMode text "derive_link_config"

/-- The frameworks that a mode adds to those of the target. -/
def RequestedMode.sdkFrameworks : RequestedMode → Except Problem (List String)
  | known m => .ok m.sdkFrameworks
  | unknown text => .error (unhandledMode text "extra_sdk_frameworks")

namespace LinkPlan

/-- A link plan as a value. -/
def toValue (l : LinkPlan) : Value :=
  .record "LinkConfiguration" [
    ("extra_link_args", .ofTexts l.extraLinkArgs),
    ("extra_link_inputs", .ofArtifacts l.extraLinkInputs),
    ("bundle_format", .text l.bundleFormat)]

/-- A value as a link plan. -/
def ofValue? (v : Value) : Option LinkPlan := do
  let [arguments, inputs, format] ← v.fields? "LinkConfiguration"
    ["extra_link_args", "extra_link_inputs", "bundle_format"] | none
  return { extraLinkArgs := ← arguments.texts?
           extraLinkInputs := ← inputs.artifactList?
           bundleFormat := ← format.text? }

@[simp] theorem ofValue?_toValue (l : LinkPlan) : ofValue? l.toValue = some l := by
  simp [ofValue?, toValue, Value.fields?]

/-- The directory of the bundle of a target with a given name. -/
def bundleDirectory (l : LinkPlan) (name : String) : Except Template.Failure String :=
  Template.fill l.bundleFormat name

/-- An ordinary program. -/
def forApplication : LinkPlan := { bundleFormat := appBundleFormat }

/-- The arguments that let the linker look for missing symbols in a binary, without its path. -/
def loaderArgs : List String := ["-bundle", "-bundle_loader"]

/-- A bundle that a host application loads. -/
def forHost (h : HostApp) : LinkPlan :=
  { extraLinkArgs := loaderArgs ++ [h.linkedBinary.path]
    extraLinkInputs := [h.linkedBinary]
    bundleFormat := xctestBundleFormat }

/-- How a target is linked in a mode.  The host application is looked up at most once, and only
for a hosted unit test. -/
def forMode {m : Type → Type} [Monad m] (mode : RequestedMode) (lookup : m (Option HostApp))
    (hostLabel : Option String) : m (Except LinkFault LinkPlan) :=
  match mode with
  | .known .application => pure (.ok forApplication)
  | .known .hostedUnitTest => do
    match ← lookup with
    | some h => pure (.ok (forHost h))
    | none => pure (.error (.missingHost hostLabel))
  | .unknown text => pure (.error (.unknownMode text))

end LinkPlan

end TargetAssembly
