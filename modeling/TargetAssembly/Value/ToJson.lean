import TargetAssembly.FileTree
import TargetAssembly.Json.Basic
import TargetAssembly.Sorting
import TargetAssembly.Text.Utf8
import TargetAssembly.Value.Use

/-!
# Values as JSON

A value is written as JSON if it is made of what JSON has.  The members of an object stand in the
order of their keys, which have to be comparable with each other; keys that are no texts are
written as texts.
-/

namespace TargetAssembly

/-- Why a value cannot be written. -/
inductive Unwritable where
  /-- A value is of a type that JSON does not have. -/
  | type (name : String)
  /-- A key is of a type that cannot be a text. -/
  | keyType (name : String)
  /-- A value does not fit its use. -/
  | misfit (m : Misfit)
deriving DecidableEq, Repr

/-- The message of a value that cannot be written. -/
def Unwritable.message : Unwritable → String
  | type name => "Object of type " ++ name ++ " is not JSON serializable"
  | keyType name => "keys must be str, int, float, bool or None, not " ++ name
  | misfit m => m.message

namespace Value

/-- The text that a key is written as. -/
def keyText : Value → Except Unwritable String
  | null => .ok "null"
  | bool b => .ok (if b then "true" else "false")
  | float x => .ok (x.textWith "Infinity" "NaN")
  | int i => (writtenInt i).mapError .misfit
  | text s => .ok s
  | enumerated e => .ok e.value
  | v => .error (.keyType v.typeName)

/-- Entries whose keys are all texts, under these. -/
def textKeys? {α : Type} : List (Value × α) → Option (List (String × α))
  | [] => some []
  | (text s, a) :: rest => (textKeys? rest).map ((s, a) :: ·)
  | _ :: _ => none

/-- Entries in the order of their keys. -/
def sortEntries {α : Type} (entries : List (Value × α)) : Except Unwritable (List (Value × α)) :=
  match textKeys? entries with
  | some named =>
    .ok ((named.mergeSort fun a b => a.1 ≤ b.1).map fun e => (text e.1, e.2))
  | none => (Sorting.sort (fun a b => less a.1 b.1) entries).mapError .misfit

/-- The members that sorted entries are written as.  A key that is no text stops before its
value. -/
def members : List (Value × Except Unwritable Json) →
    Except Unwritable (List (List Text.Point × Json))
  | [] => .ok []
  | (k, v) :: rest => do
    let name ← keyText k
    let value ← v
    let rest ← members rest
    return (Text.Point.ofString name, value) :: rest

/-- The object that entries are written as. -/
def objectOf (entries : List (Value × Except Unwritable Json)) : Except Unwritable Json := do
  let sorted ← sortEntries entries
  let ms ← members sorted
  return .object ms

mutual

/-- The JSON value that a value is written as. -/
def toJson : Value → Except Unwritable Json
  | null => .ok .null
  | bool b => .ok (.bool b)
  | int i => ((writtenInt i).mapError .misfit).map fun _ => .int i
  | float x => .ok (.float x)
  | text s => .ok (.ofString s)
  | enumerated e => .ok (.ofString e.value)
  | list items => (toJsonItems items).map .list
  | tuple items => (toJsonItems items).map .list
  | mapping false entries => objectOf (toJsonEntries entries)
  | v => .error (.type v.typeName)

/-- The items of a list. -/
def toJsonItems : List Value → Except Unwritable (List Json)
  | [] => .ok []
  | v :: rest => do
    let item ← v.toJson
    let items ← toJsonItems rest
    return item :: items

/-- The entries of a mapping, each with what its value is written as. -/
def toJsonEntries : List (Value × Value) → List (Value × Except Unwritable Json)
  | [] => []
  | (k, v) :: rest => (k, v.toJson) :: toJsonEntries rest

end

end Value

/-!
## Values as files

The text of values may turn out not to exist when it is to be written to a file.  The directories
above the file are made by then, and stay.
-/

/-- Why a file was not written. -/
inductive ExportError where
  /-- What is to be written has no text. -/
  | unwritable (e : Unwritable)
  /-- The file cannot be written. -/
  | file (e : FileError)

/-- Write what may be a text to a file, and make the directories above it first where they are
missing. -/
def FileTree.writeText (t : FileTree) (p : FilePath) (text : Except Unwritable (List Char)) :
    FileTree × Except ExportError Unit :=
  match t.makeDirectories p.parent.parts.reverse with
  | (t, .error e) => (t, .error (.file e))
  | (t, .ok ()) =>
    match text with
    | .error e => (t, .error (.unwritable e))
    | .ok cs =>
      match t.write p (Text.Utf8.encode cs) with
      | (t, .error e) => (t, .error (.file e))
      | (t, .ok ()) => (t, .ok ())

/-- A text that exists is written as any other bytes are. -/
theorem FileTree.writeText_ok (t : FileTree) (p : FilePath) (cs : List Char) :
    t.writeText p (.ok cs) =
      let (t, result) := t.writeDeep p (Text.Utf8.encode cs)
      (t, result.mapError .file) := by
  unfold FileTree.writeText FileTree.writeDeep
  rcases t.makeDirectories p.parent.parts.reverse with ⟨t, e | u⟩
  · rfl
  · rcases h : t.write p (Text.Utf8.encode cs) with ⟨t, e | u⟩ <;> simp only [h] <;> rfl

end TargetAssembly
