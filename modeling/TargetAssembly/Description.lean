import TargetAssembly.Capability
import TargetAssembly.Cbor
import TargetAssembly.Digest.Sha256

/-!
# Descriptions of targets

A description says what a target is to the rest of the build: the files that it builds, its
capabilities, further values of any type, and the program to run.  Its payload, its bytes and
their digest do not depend on how its sets are nested or in which order its capabilities were
supplied.
-/

namespace TargetAssembly

/-- What can be supplied as a capability: a capability of one of the four kinds, or some other
value. -/
inductive Supply where
  /-- A capability. -/
  | capability (c : Capability)
  /-- Another value. -/
  | other (v : Value)

namespace Supply

/-- What is supplied, as a value. -/
def toValue : Supply → Value
  | capability c => c.toValue
  | other v => v

/-- The kind of what is supplied, if it has one.  Besides capabilities these are records of the
same types with fields of other types. -/
def kind? : Supply → Option CapabilityKind
  | capability c => some c.kind
  | other (.record type _) => CapabilityKind.ofTypeName? type
  | other _ => none

/-- What a value supplies. -/
def ofValue (v : Value) : Supply :=
  match Capability.ofValue? v with
  | some c => capability c
  | none => other v

end Supply

/-- What a target is to the rest of the build. -/
structure Description where
  /-- The label of the target. -/
  label : String
  /-- The files that the target builds. -/
  filesToBuild : ArtifactSet
  /-- The capabilities, each kind once, in the order in which they were supplied. -/
  capabilities : List (CapabilityKind × Supply) := []
  /-- Further values. -/
  extras : List Value := []
  /-- The program to run. -/
  executable : Option Artifact := none

namespace Description

/-! ## Capabilities -/

/-- The kinds that are supplied, in their order. -/
def kinds (d : Description) : List CapabilityKind := Keyed.keys d.capabilities

/-- Whether the capability of a kind is of that kind. -/
def offers (d : Description) (kind : CapabilityKind) : Bool :=
  (d.capabilities.lookup kind).any (·.kind? = some kind)

/-- How the target is to be run. -/
def executionInfo (d : Description) : Option ExecutionInfo :=
  match d.capabilities.lookup .executionInfo with
  | some (.capability (.executionInfo e)) => some e
  | _ => none

/-- The files that the target needs when it runs. -/
def runfiles (d : Description) : Option Runfiles :=
  match d.capabilities.lookup .runfiles with
  | some (.capability (.runfiles r)) => some r
  | _ => none

/-- The files that coverage looks at. -/
def instrumentedFiles (d : Description) : Option InstrumentedFiles :=
  match d.capabilities.lookup .instrumentedFiles with
  | some (.capability (.instrumentedFiles f)) => some f
  | _ => none

/-- The project that opens the target. -/
def ideProject (d : Description) : Option ProjectInfo :=
  match d.capabilities.lookup .ideProject with
  | some (.capability (.ideProject p)) => some p
  | _ => none

/-- The extra values that satisfy a test, in their order. -/
def extrasWhere (d : Description) (p : Value → Bool) : List Value := d.extras.filter p

/-! ## Payload, bytes and digest -/

/-- An extra value under the name of its type. -/
def extraPayload (v : Value) : Except Misfit Payload := do
  return .object [("type", .text v.typeName), ("value", ← v.payload)]

/-- What is supplied of a kind, under the text of the kind. -/
def supplyPayload (e : CapabilityKind × Value) : Except Misfit (String × Payload) := do
  return (e.1.text, ← e.2.payload)

/-- The capabilities in the order of the texts of their kinds. -/
def sortedCapabilities (d : Description) : List (CapabilityKind × Supply) :=
  d.capabilities.mergeSort fun a b => a.1.text ≤ b.1.text

/-- A description as plain data. -/
def payload (d : Description) : Except Misfit Payload := do
  let capabilities ← d.sortedCapabilities.mapM fun e => supplyPayload (e.1, e.2.toValue)
  let extras ← d.extras.mapM extraPayload
  return .object [
    ("label", .text d.label),
    ("files_to_build", .ofArtifacts d.filesToBuild),
    ("capabilities", .object capabilities),
    ("extras", .list extras),
    ("executable", .ofArtifact? d.executable)]

/-- The bytes of a description. -/
def bytes (d : Description) : Except Misfit (List UInt8) := do Cbor.write (← d.payload)

/-- The digest of the bytes of a description. -/
def digest (d : Description) : Except Misfit String := d.bytes.map Digest.sha256

end Description

end TargetAssembly
