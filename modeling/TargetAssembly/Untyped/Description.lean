import TargetAssembly.Contribution
import TargetAssembly.Payload
import TargetAssembly.Untyped.Problem
import TargetAssembly.Value.Use

/-!
# Descriptions of any values

Contributions may hold anything as files, capabilities and the program to run.  They are merged as
`Contribution.mergeAll` merges them.  What is among the files or is the program, but is no artifact,
is only found to be so when the payload is made; what has no bytes, only when these are made.
-/

namespace TargetAssembly.Untyped

/-- A description of a target by any values. -/
structure Description where
  /-- The label of the target. -/
  label : Value
  /-- The files that the target builds, each once. -/
  files : List Value
  /-- The capabilities, each kind once, in the order in which they were supplied. -/
  capabilities : List (CapabilityKind × Value) := []
  /-- Further values. -/
  extras : List Value := []
  /-- The program to run. -/
  executable : Option Value := none

namespace Description

/-- A description as one by any values. -/
def ofTyped (d : TargetAssembly.Description) : Description :=
  { label := .text d.label
    files := d.filesToBuild.toList.map .artifact
    capabilities := d.capabilities.map fun e => (e.1, e.2.toValue)
    extras := d.extras
    executable := d.executable.map .artifact }

/-- The description that it is if label, files and program are what they should be. -/
def typed? (d : Description) : Option TargetAssembly.Description := do
  return { label := ← d.label.text?
           filesToBuild := .ofList (← d.files.mapM Value.artifact?)
           capabilities := d.capabilities.map fun e => (e.1, .ofValue e.2)
           extras := d.extras
           executable := ← d.executable.mapM Value.artifact? }

/-- An artifact, or what is taken for one, as plain data. -/
def filePayload (v : Value) : Except Misfit Payload := do
  let root ← v.part "root"
  let path ← v.part "exec_path"
  return .object [("root", ← root.payload), ("path", ← path.payload)]

/-- A description as plain data, made part by part. -/
def payloadByParts (d : Description) : Except Misfit Payload := do
  let label ← d.label.payload
  let files ← d.files.mapM filePayload
  let sorted := d.capabilities.mergeSort fun a b => a.1.text ≤ b.1.text
  let capabilities ← sorted.mapM TargetAssembly.Description.supplyPayload
  let extras ← d.extras.mapM TargetAssembly.Description.extraPayload
  let executable ← d.executable.mapM filePayload
  return .object [
    ("label", label),
    ("files_to_build", .list files),
    ("capabilities", .object capabilities),
    ("extras", .list extras),
    ("executable", executable.getD .null)]

/-- A description as plain data. -/
def payload (d : Description) : Except Misfit Payload :=
  match d.typed? with
  | some typed => typed.payload
  | none => d.payloadByParts

/-- The bytes of a description.  The label is written first, as it is. -/
def bytes (d : Description) : Except Misfit (List UInt8) := do
  let payload ← d.payload
  if let some type := d.label.foreignType? then throw (.noBytes type)
  Cbor.write payload

/-- The digest of the bytes of a description. -/
def digest (d : Description) : Except Misfit String := d.bytes.map Digest.sha256

/-- The kinds that are supplied, in their order. -/
def kinds (d : Description) : List CapabilityKind := Keyed.keys d.capabilities

/-- Whether the capability of a kind is of that kind. -/
def offers (d : Description) (kind : CapabilityKind) : Bool :=
  (d.capabilities.lookup kind).any fun v => (Supply.other v).kind? = some kind

/-- The extra values that satisfy a test, in their order. -/
def extrasWhere (d : Description) (p : Value → Bool) : List Value := d.extras.filter p

end Description

/-! ## Contributions -/

/-- What one part of a build contributes to a target. -/
structure Contribution where
  /-- The name of the part. -/
  source : String
  /-- The files that it builds, each once. -/
  files : List Value := []
  /-- The capabilities that it supplies. -/
  capabilities : List Value := []
  /-- The extra values that it supplies. -/
  extras : List Value := []
  /-- The program to run, if it makes one. -/
  executable : Option Value := none

namespace Contribution

/-- The items of a value that are put in a set: a set among them is put in as a whole. -/
def setItems (v : Value) : Except Misfit (List Value) := do
  return (← v.items).flatMap fun
    | .artifacts s => s.toList.map .artifact
    | item => [item]

/-- A value as files to build, each once. -/
def filesOf (v : Value) : Except Misfit (List Value) := do Value.distinct (← setItems v)

/-- The contribution that it is if files and program are what they should be. -/
def typed? (c : Contribution) : Option TargetAssembly.Contribution := do
  return { source := c.source
           files := .ofList (← c.files.mapM Value.artifact?)
           capabilities := c.capabilities.map .ofValue
           extras := c.extras
           executable := ← c.executable.mapM Value.artifact? }

/-- What contributions come to so far. -/
structure Merged where
  /-- The files. -/
  files : List Value := []
  /-- The capabilities, each with its source. -/
  capabilities : List (CapabilityKind × Value × String) := []
  /-- The extra values. -/
  extras : List Value := []
  /-- The program to run, with its source. -/
  executable : Option (Value × String) := none

/-- The problem that an item of a target with a label of any type is supplied by two sources. -/
def suppliedTwice (label : Value) (item : TargetAssembly.Contribution.Item)
    (first second : String) : Problem :=
  (Problem.ofTyped (TargetAssembly.Contribution.suppliedTwice "" item first second)).within
    "target" label

/-- Merge one capability of a source. -/
def addCapability (label : Value) (source : String) (m : Merged) (v : Value) :
    Except Fault Merged :=
  match (Supply.other v).kind? with
  | none => .error (.misfit (TargetAssembly.Contribution.noKind v.typeName))
  | some kind =>
    match m.capabilities.lookup kind with
    | some (_, first) =>
      .error (.problem (suppliedTwice label (.capability kind) first source))
    | none => .ok { m with capabilities := m.capabilities ++ [(kind, v, source)] }

/-- Merge the program of a source, if it makes one. -/
def addExecutable (label : Value) (source : String) (m : Merged) :
    Option Value → Except Fault Merged
  | none => .ok m
  | some v =>
    match m.executable with
    | some (_, first) =>
      .error (.problem (suppliedTwice label .executable first source))
    | none => .ok { m with executable := some (v, source) }

/-- Merge one contribution: its files, its capabilities in order, its program, its extra values. -/
def add (label : Value) (m : Merged) (c : Contribution) : Except Fault Merged := do
  let m ← c.capabilities.foldlM (addCapability label c.source) m
  let m ← addExecutable label c.source m c.executable
  return { m with files := m.files ++ c.files, extras := m.extras ++ c.extras }

/-- Merge contributions one by one. -/
def mergeEach (label : Value) (contributions : List Contribution) : Except Fault Description := do
  let m ← contributions.foldlM (add label) {}
  return {
    label
    files := ← (Value.distinct m.files).mapError .misfit
    capabilities := m.capabilities.map fun e => (e.1, e.2.1)
    extras := m.extras
    executable := m.executable.map Prod.fst }

/-- Merge contributions, in order, into the description of a target. -/
def mergeAll (label : Value) (contributions : List Contribution) : Except Fault Description :=
  match label.text?, contributions.mapM typed? with
  | some name, some typed =>
    match TargetAssembly.Contribution.mergeAll name typed with
    | .ok d => .ok (.ofTyped d)
    | .error (.suppliedTwice item first second) =>
      .error (.problem (suppliedTwice (.text name) item first second))
    | .error (.noKind type) => .error (.misfit (TargetAssembly.Contribution.noKind type))
  | _, _ => mergeEach label contributions

end Contribution

end TargetAssembly.Untyped
