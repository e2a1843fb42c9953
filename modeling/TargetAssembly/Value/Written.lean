import TargetAssembly.Decimal.Shortest
import TargetAssembly.Text.Quoted
import TargetAssembly.Value.Use

/-!
# Values in messages

A message that quotes a value writes it so that its type can be seen: texts in quotes, lists in
brackets, tuples in parentheses, mappings in braces, members of an enumeration with their name
and their text, records with their fields, and problems with their message.  A whole number has no
text if it has more than `Decimal.maxDigits` digits, and then no value that shows it has one.
-/

namespace TargetAssembly.Value

/-- A truth value. -/
def writtenBool (b : Bool) : String := if b then "True" else "False"

/-- A whole number in decimal digits, unless there are too many of them. -/
def writtenInt (i : Int) : Except Misfit String :=
  if Decimal.maxDigits < (Nat.toDigits 10 i.natAbs).length then .error .tooManyDigits
  else .ok (toString i)

/-- An artifact with its path and its root. -/
def writtenArtifact (a : Artifact) : String :=
  "Artifact(exec_path=" ++ Text.quoted a.path ++ ", root=" ++ Text.quoted a.root ++ ")"

/-- A member of an enumeration with its name and its text. -/
def writtenMember (e : Enumerated) : String :=
  "<" ++ e.type ++ "." ++ e.member ++ ": " ++ Text.quoted e.value ++ ">"

/-- Items between commas. -/
def commaList (items : List String) : String := ", ".intercalate items

/-- Items in parentheses; a single one is followed by a comma. -/
def writtenTuple : List String → String
  | [item] => "(" ++ item ++ ",)"
  | items => "(" ++ commaList items ++ ")"

/-- A mapping in braces. -/
def writtenMapping (readOnly : Bool) (entries : List String) : String :=
  let braces := "\x7b" ++ commaList entries ++ "\x7d"
  if readOnly then "mappingproxy(" ++ braces ++ ")" else braces

mutual

/-- A value as messages quote it. -/
def written : Value → Except Misfit String
  | null => .ok "None"
  | bool b => .ok (writtenBool b)
  | int i => writtenInt i
  | float x => .ok x.text
  | text s => .ok (Text.quoted s)
  | bytes bs => .ok (Text.quotedBytes bs)
  | artifact a => .ok (writtenArtifact a)
  | artifacts s => .ok s.text
  | enumerated e => .ok (writtenMember e)
  | list items => do return "[" ++ commaList (← writtenItems items) ++ "]"
  | tuple items => do return writtenTuple (← writtenItems items)
  | mapping readOnly entries => do return writtenMapping readOnly (← writtenEntries entries)
  | record type fields => do return type ++ "(" ++ commaList (← writtenFields fields) ++ ")"
  | problem _ kind message _ _ => do return kind.name ++ "(" ++ (← message.written) ++ ")"

/-- The items of a list. -/
def writtenItems : List Value → Except Misfit (List String)
  | [] => .ok []
  | v :: rest => do
    let item ← v.written
    return item :: (← writtenItems rest)

/-- The entries of a mapping. -/
def writtenEntries : List (Value × Value) → Except Misfit (List String)
  | [] => .ok []
  | (k, v) :: rest => do
    let key ← k.written
    let value ← v.written
    return (key ++ ": " ++ value) :: (← writtenEntries rest)

/-- The fields of a record. -/
def writtenFields : List (String × Value) → Except Misfit (List String)
  | [] => .ok []
  | (name, v) :: rest => do
    let value ← v.written
    return (name ++ "=" ++ value) :: (← writtenFields rest)

end

mutual

/-- A value as plain text: what counts as text is that text, a problem its lines, and all else is
written as messages quote it.  The lines of a problem are its message, its hint unless it counts as
false, and the entries of its context that do not count as false. -/
def plain : Value → Except Misfit String
  | problem _ _ message hint context => do
    let first ← message.plain
    let hintLines ← if hint.isTrue then do pure ["Hint: " ++ (← hint.plain)] else pure []
    return "\n".intercalate (first :: hintLines ++ (← plainContext context))
  | v =>
    match v.string? with
    | some s => .ok s
    | none => v.written

/-- The lines of the context of a problem. -/
def plainContext : List (Value × Value) → Except Misfit (List String)
  | [] => .ok []
  | (k, v) :: rest =>
    if v.isTrue then do
      let key ← k.plain
      let value ← v.plain
      return ("  " ++ key ++ ": " ++ value) :: (← plainContext rest)
    else plainContext rest

end

/-- Of a context of texts the entries that are not empty have a line. -/
theorem plainContext_map_text (l : List (String × String)) :
    plainContext (l.map fun e => (text e.1, text e.2)) =
      .ok (l.filterMap fun e =>
        if e.2.isEmpty then none else some ("  " ++ e.1 ++ ": " ++ e.2)) := by
  induction l with
  | nil => rfl
  | cons e l ih =>
    rw [List.map_cons, plainContext, isTrue_text, ih, List.filterMap_cons]
    cases e.2.isEmpty <;> simp [plain, string?, Bind.bind, Except.bind, pure, Except.pure]

end TargetAssembly.Value
