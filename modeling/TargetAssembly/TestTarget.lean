import TargetAssembly.BuildMode
import TargetAssembly.Problem.Basic
import TargetAssembly.Text.Split
import TargetAssembly.Value.Reading
import TargetAssembly.Value.Written

/-!
# Attributes of a test target

A test target is declared by its label and by attributes: whether it is a hosted unit test, lists
of files, labels and names, and two texts.  `TestTarget.ofDeclaration` checks a declaration and
says what is wrong with the first attribute that has a value of the wrong type.
-/

namespace TargetAssembly.Label

/-!
## Labels

A label names a target: slashes, the path of a package, a colon and a name.  The name can be left
out, and is then the last component of the package.  Outputs of a target lie in its package under
its name.
-/

/-- The package of a label: what follows its leading slashes, up to the first colon. -/
def package (label : String) : String :=
  String.ofList (Text.beforeFirst ':' (Text.withoutLeading '/' label.toList))

/-- The name of a label: what follows its last colon, or else the last component of its package. -/
def name (label : String) : String :=
  if ':' ∈ label.toList then String.ofList (Text.afterLast ':' label.toList)
  else String.ofList (Text.afterLast '/' (package label).toList)

/-- What follows the first colon of a label, or nothing if it has none. -/
def statedName (label : String) : String :=
  String.ofList (Text.afterFirst ':' (Text.withoutLeading '/' label.toList))

/-- A path below a package; the package of the root adds nothing. -/
def inPackage (package path : String) : String :=
  if package.isEmpty then path else package ++ "/" ++ path

end TargetAssembly.Label

namespace TargetAssembly

/-- A test target as it is declared. -/
structure TestTarget where
  /-- The label of the target. -/
  label : String
  /-- Whether a host application loads the tests. -/
  isHosted : Bool := false
  /-- The sources. -/
  srcs : List String := []
  /-- The sources that count references by hand. -/
  nonArcSrcs : List String := []
  /-- The headers. -/
  hdrs : List String := []
  /-- The labels of the libraries that the target depends on. -/
  deps : List String := []
  /-- The labels of bundles. -/
  bundles : List String := []
  /-- The labels of libraries that are not passed on. -/
  nonPropagatedDeps : List String := []
  /-- The storyboards. -/
  storyboards : List String := []
  /-- The data models. -/
  dataModels : List String := []
  /-- Other resources. -/
  resources : List String := []
  /-- The frameworks to link. -/
  sdkFrameworks : List String := []
  /-- The label of the application that loads the tests. -/
  hostLabel : Option String := none
  /-- Plugins of the test runner. -/
  plugins : List String := []
  /-- Arguments for the device. -/
  deviceArgs : List String := []
  /-- The device to test on. -/
  targetDevice : Option String := none
deriving DecidableEq, Repr

namespace TestTarget

/-! ## Names and paths -/

/-- The package of the target. -/
def package (a : TestTarget) : String := Label.package a.label

/-- The name of the target. -/
def name (a : TestTarget) : String := Label.name a.label

/-- The path of the outputs of the target, up to their endings. -/
def outputPath (a : TestTarget) : String := Label.inPackage a.package a.name

/-- The path of an intermediate file of the target. -/
def objectPath (a : TestTarget) (file : String) : String :=
  Label.inPackage a.package ("_objs/" ++ a.name ++ "/" ++ file)

/-- A source of the target. -/
def source (a : TestTarget) (path : String) : Artifact :=
  { path := Label.inPackage a.package path, root := "src" }

/-- The mode in which the target is built. -/
def mode (a : TestTarget) : BuildMode :=
  .ofHosted a.isHosted

/-- Attributes as a value. -/
def toValue (a : TestTarget) : Value :=
  .record "TargetAttributes" [
    ("label", .text a.label),
    ("is_xctest", .bool a.isHosted),
    ("srcs", .ofTexts a.srcs),
    ("non_arc_srcs", .ofTexts a.nonArcSrcs),
    ("hdrs", .ofTexts a.hdrs),
    ("deps", .ofTexts a.deps),
    ("bundles", .ofTexts a.bundles),
    ("non_propagated_deps", .ofTexts a.nonPropagatedDeps),
    ("storyboards", .ofTexts a.storyboards),
    ("xcdatamodels", .ofTexts a.dataModels),
    ("resources", .ofTexts a.resources),
    ("sdk_frameworks", .ofTexts a.sdkFrameworks),
    ("xctest_app", .ofText? a.hostLabel),
    ("plugins", .ofTexts a.plugins),
    ("ios_device_arg", .ofTexts a.deviceArgs),
    ("ios_test_target_device", .ofText? a.targetDevice)]

/-- The names of the fields of attributes as a value. -/
def fieldNames : List String := [
  "label", "is_xctest", "srcs", "non_arc_srcs", "hdrs", "deps", "bundles", "non_propagated_deps",
  "storyboards", "xcdatamodels", "resources", "sdk_frameworks", "xctest_app", "plugins",
  "ios_device_arg", "ios_test_target_device"]

/-- A value as attributes. -/
def ofValue? (v : Value) : Option TestTarget := do
  let [label, isHosted, srcs, nonArcSrcs, hdrs, deps, bundles, nonPropagatedDeps, storyboards,
    dataModels, resources, sdkFrameworks, hostLabel, plugins, deviceArgs, targetDevice] ←
    v.fields? "TargetAttributes" fieldNames | none
  return { label := ← label.text?
           isHosted := ← isHosted.bool?
           srcs := ← srcs.texts?
           nonArcSrcs := ← nonArcSrcs.texts?
           hdrs := ← hdrs.texts?
           deps := ← deps.texts?
           bundles := ← bundles.texts?
           nonPropagatedDeps := ← nonPropagatedDeps.texts?
           storyboards := ← storyboards.texts?
           dataModels := ← dataModels.texts?
           resources := ← resources.texts?
           sdkFrameworks := ← sdkFrameworks.texts?
           hostLabel := ← hostLabel.option? Value.text?
           plugins := ← plugins.texts?
           deviceArgs := ← deviceArgs.texts?
           targetDevice := ← targetDevice.option? Value.text? }

@[simp] theorem ofValue?_toValue (a : TestTarget) : ofValue? a.toValue = some a := by
  have h : a.toValue.fields? "TargetAttributes" fieldNames = some [
      .text a.label, .bool a.isHosted, .ofTexts a.srcs, .ofTexts a.nonArcSrcs, .ofTexts a.hdrs,
      .ofTexts a.deps, .ofTexts a.bundles, .ofTexts a.nonPropagatedDeps, .ofTexts a.storyboards,
      .ofTexts a.dataModels, .ofTexts a.resources, .ofTexts a.sdkFrameworks,
      .ofText? a.hostLabel, .ofTexts a.plugins, .ofTexts a.deviceArgs,
      .ofText? a.targetDevice] := rfl
  unfold ofValue?
  rw [h]
  dsimp only [Option.bind_eq_bind, Option.bind_some]
  rw [Value.text?_text, Value.bool?_bool]
  simp only [Value.texts?_ofTexts, Value.option?_text_ofText?, Option.bind_some, Option.pure_def]

/-! ## Declarations -/

/-- What is wrong with a declaration. -/
inductive Malformed where
  /-- An attribute that says yes or no has another value. -/
  | notBoolean (key : String) (value : Value)
  /-- An attribute that lists texts has a value that is no list. -/
  | notList (key : String) (value : Value)
  /-- An attribute that lists texts has an item that is no text. -/
  | notText (key : String) (item : Value)
  /-- An attribute that is a label has a value that is no text. -/
  | notLabel (key : String) (value : Value)

/-- The problem that a malformed declaration of a target is, if what is quoted has a text. -/
def Malformed.problem (label : String) (m : Malformed) : Except Misfit Problem :=
  let about (key rest : String) (value : Value) : Except Misfit Problem := do
    let quoted ← value.written
    return { kind := .configuration
             message := "Attribute `" ++ key ++ "` must " ++ rest
             context := [("target", label), ("value", quoted)] }
  match m with
  | .notBoolean key value => about key "be a boolean." value
  | .notList key value => about key "be a list of strings." value
  | .notText key item => about key "contain only strings." item
  | .notLabel key value => about key "be a label string." value

/-- The value of an attribute that says yes or no; it is no if it is not declared. -/
def booleanAttribute (key : String) (declared : List (String × Value)) :
    Except Malformed Bool :=
  match declared.lookup key with
  | none => .ok false
  | some (.bool b) => .ok b
  | some value => .error (.notBoolean key value)

/-- The texts of a list, up to the first item that is no text. -/
def textItems (key : String) : List Value → Except Malformed (List String)
  | [] => .ok []
  | item :: rest =>
    match item.string? with
    | some s => (textItems key rest).map (s :: ·)
    | none => .error (.notText key item)

/-- The value of an attribute that lists texts; it is empty if it is not declared. -/
def listAttribute (key : String) (declared : List (String × Value)) :
    Except Malformed (List String) :=
  match declared.lookup key with
  | none => .ok []
  | some (.list items) => textItems key items
  | some (.tuple items) => textItems key items
  | some value => .error (.notList key value)

/-- The value of an attribute that may be a label; it is missing if it is not declared or absent. -/
def labelAttribute (key : String) (declared : List (String × Value)) :
    Except Malformed (Option String) :=
  match declared.lookup key with
  | none => .ok none
  | some .null => .ok none
  | some value =>
    match value.string? with
    | some s => .ok (some s)
    | none => .error (.notLabel key value)

/-- The attributes that a declaration gives a target.  Attributes are checked in a fixed order,
not in the order of the declaration, and names that are no attributes are passed over. -/
def ofDeclaration (label : String) (declared : List (String × Value)) :
    Except Malformed TestTarget := do
  let isHosted ← booleanAttribute "xctest" declared
  let srcs ← listAttribute "srcs" declared
  let nonArcSrcs ← listAttribute "non_arc_srcs" declared
  let hdrs ← listAttribute "hdrs" declared
  let deps ← listAttribute "deps" declared
  let bundles ← listAttribute "bundles" declared
  let nonPropagatedDeps ← listAttribute "non_propagated_deps" declared
  let storyboards ← listAttribute "storyboards" declared
  let dataModels ← listAttribute "xcdatamodels" declared
  let resources ← listAttribute "resources" declared
  let sdkFrameworks ← listAttribute "sdk_frameworks" declared
  let plugins ← listAttribute "plugins" declared
  let deviceArgs ← listAttribute "ios_device_arg" declared
  let hostLabel ← labelAttribute "xctest_app" declared
  let targetDevice ← labelAttribute "ios_test_target_device" declared
  return { label, isHosted, srcs, nonArcSrcs, hdrs, deps, bundles, nonPropagatedDeps, storyboards,
           dataModels, resources, sdkFrameworks, hostLabel, plugins, deviceArgs, targetDevice }

end TestTarget

end TargetAssembly
