import TargetAssembly.Configuration.Basic
import TargetAssembly.Library
import TargetAssembly.LinkPlan
import TargetAssembly.Resolver.Answer
import TargetAssembly.TestTarget
import TargetAssembly.Value.Misfit
import TargetAssembly.Value.Use

/-!
# Types of records

A record can be made of fields alone, whatever their values are.  Its type says which fields have
to be given and what the others are if they are not.  `RecordType.all` lists the types of this
library; each is read off the view of its data as a value.
-/

namespace TargetAssembly

/-- A type of records. -/
structure RecordType where
  /-- The name of the type. -/
  name : String
  /-- The fields that have to be given, which come first. -/
  required : List String
  /-- The other fields, with their values if they are not given. -/
  optional : List (String × Value)

namespace RecordType

/-- The type of a record whose first fields have to be given, and whose other fields have the
values that they have if they are not. -/
def ofExample? (required : Nat) : Value → Option RecordType
  | .record name fields =>
    some { name, required := (fields.take required).map Prod.fst, optional := fields.drop required }
  | _ => none

/-- Some artifact. -/
def someArtifact : Artifact := { path := "" }

/-- The types of records of this library. -/
def all : List RecordType := List.filterMap id [
  ofExample? 0 ({} : Library).toValue,
  ofExample? 0 ({} : LinkPlan).toValue,
  ofExample? 2 ({ hasArchive := false, library := {} } : CommonLibrary).toValue,
  ofExample? 0 ({} : ExecutionInfo).toValue,
  ofExample? 1 ({ workspaceName := "" } : Runfiles).toValue,
  ofExample? 0 ({} : InstrumentedFiles).toValue,
  ofExample? 2 ({ label := "", productType := .application } : ProjectInfo).toValue,
  ofExample? 1 ({ runner := someArtifact } : TestRunner).toValue,
  ofExample? 1 ({ tool := someArtifact } : CoverageTool).toValue,
  ofExample? 3
    ({ label := "", linkedBinary := someArtifact, ipa := someArtifact } : HostApp).toValue,
  ofExample? 1 ({ label := "" } : TestTarget).toValue,
  ofExample? 0 ({} : Compilation).toValue,
  ofExample? 1 ({ directory := "" } : Bundle).toValue,
  ofExample? 0 ({} : ResourceReport).toValue,
  ofExample? 1 ({ project := .other .null } : ProjectExport).toValue,
  ofExample? 3
    ({ executable := none, runfiles := .other .null, instrumented := .other .null } :
      TestSupport).toValue,
  ofExample? 0 ({} : Configuration).toValue,
  ofExample? 2 ({ severity := .error, message := "" } : Diagnostic).toValue]

/-- The type of a given name. -/
def named? (name : String) : Option RecordType := all.find? (·.name = name)

/-- What has to be given to make a record of a type. -/
def signature (t : RecordType) : Signature :=
  { callee := t.name ++ ".__init__", required := t.required, optional := t.optional.map Prod.fst }

/-- The value of a field that may be left out: where it is a mapping for reading only, what is given
is taken as a mapping; anything else is taken as it is. -/
def fieldOf (unlessGiven : Value) (given : Option Value) : Except Misfit Value :=
  match unlessGiven, given with
  | v, none => .ok v
  | .mapping true _, some v => do return .mapping true (← v.entries)
  | _, some v => .ok v

/-- The record of a type that has given fields. -/
def make (t : RecordType) (given : List (String × Value)) : Except Misfit Value := do
  t.signature.check (given.map Prod.fst)
  let required := t.required.map fun name => (name, (given.lookup name).getD .null)
  let optional ← t.optional.mapM fun f => do return (f.1, ← fieldOf f.2 (given.lookup f.1))
  return .record t.name (required ++ optional)

end RecordType

end TargetAssembly
