import TargetAssembly.Value.Basic
import TargetAssembly.Value.Written

/-!
# Payloads

A payload is plain data: scalars, lists, and objects with texts as keys.  `Value.payload` brings
a value of any type into that form.  Records become objects of their fields, artifacts objects of
root and path, sets the lists of their artifacts, and the keys of a mapping their plain texts; where
two keys have the same text the last value stays, at the first place.  A key that has no plain text
keeps its mapping from being plain data.  Problems are left as they are.
-/

namespace TargetAssembly

/-- Plain data. -/
inductive Payload where
  /-- The absent value. -/
  | null
  /-- A truth value. -/
  | bool (b : Bool)
  /-- A whole number. -/
  | int (i : Int)
  /-- A floating point number. -/
  | float (x : Binary64)
  /-- A text. -/
  | text (s : String)
  /-- A byte string. -/
  | bytes (bs : List UInt8)
  /-- A list. -/
  | list (items : List Payload)
  /-- An object. -/
  | object (members : List (String × Payload))
  /-- A problem, which is no plain data but stands where it stood. -/
  | problem (occurrence : Nat) (kind : ProblemKind) (message hint : Value)
    (context : List (Value × Value))

namespace Payload

/-- An artifact as an object of root and path. -/
def ofArtifact (a : Artifact) : Payload :=
  object [("root", text a.root), ("path", text a.path)]

/-- An artifact or nothing. -/
def ofArtifact? : Option Artifact → Payload
  | some a => ofArtifact a
  | none => null

/-- The list of the artifacts of a set. -/
def ofArtifacts (s : ArtifactSet) : Payload := list (s.toList.map ofArtifact)

end Payload

/-- The members of the object that a record of a type becomes.  What is taken for an artifact is
named as artifacts are. -/
def Payload.recordMembers (type : String) (fields : List (String × Payload)) :
    List (String × Payload) :=
  if type = "Artifact" then fields.map fun m => (if m.1 = "exec_path" then "path" else m.1, m.2)
  else fields

namespace Value

mutual

/-- A value as plain data. -/
def payload : Value → Except Misfit Payload
  | null => .ok .null
  | bool b => .ok (.bool b)
  | int i => .ok (.int i)
  | float x => .ok (.float x)
  | text s => .ok (.text s)
  | bytes bs => .ok (.bytes bs)
  | artifact a => .ok (.ofArtifact a)
  | artifacts s => .ok (.ofArtifacts s)
  | enumerated e => .ok (.text e.value)
  | list items => do return .list (← payloads items)
  | tuple items => do return .list (← payloads items)
  | mapping _ entries => do return .object (Keyed.ofList (← entryPayloads entries))
  | record type fields => do
    return .object (Keyed.ofList (Payload.recordMembers type (← fieldPayloads fields)))
  | problem occurrence kind message hint context =>
    .ok (.problem occurrence kind message hint context)

/-- The items of a list as plain data. -/
def payloads : List Value → Except Misfit (List Payload)
  | [] => .ok []
  | v :: rest => do
    let item ← v.payload
    return item :: (← payloads rest)

/-- The entries of a mapping as plain data under the plain texts of their keys. -/
def entryPayloads : List (Value × Value) → Except Misfit (List (String × Payload))
  | [] => .ok []
  | (k, v) :: rest => do
    let name ← k.plain
    let value ← v.payload
    return (name, value) :: (← entryPayloads rest)

/-- The fields of a record as plain data. -/
def fieldPayloads : List (String × Value) → Except Misfit (List (String × Payload))
  | [] => .ok []
  | (name, v) :: rest => do
    let value ← v.payload
    return (name, value) :: (← fieldPayloads rest)

end

/-! ## Values that are plain as they are -/

mutual

/-- The type of the first part that keeps a value from being plain data as it is, if there is one:
artifacts, sets, records and problems are none. -/
def foreignType? : Value → Option String
  | artifact a => some (artifact a).typeName
  | artifacts s => some (artifacts s).typeName
  | record type _ => some type
  | problem _ kind _ _ _ => some kind.name
  | list items => foreignItem? items
  | tuple items => foreignItem? items
  | mapping _ entries => foreignBound? entries
  | _ => none

/-- The type that keeps the items of a list from being plain data. -/
def foreignItem? : List Value → Option String
  | [] => none
  | v :: rest => v.foreignType?.or (foreignItem? rest)

/-- The type that keeps the values of a mapping from being plain data. -/
def foreignBound? : List (Value × Value) → Option String
  | [] => none
  | (_, v) :: rest => v.foreignType?.or (foreignBound? rest)

end

end Value

end TargetAssembly
