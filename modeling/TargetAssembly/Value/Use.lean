import TargetAssembly.Keyed
import TargetAssembly.Value.Basic
import TargetAssembly.Value.Misfit

/-!
# The use of values

What can be done with a value of any type: compare it with another, ask for a part of it by name, go
through its items, ask whether it counts as true, take it as a key, and take it as a mapping.  A
value whose type does not provide for a use is a misfit.
-/

namespace TargetAssembly.Value

/-!
## The order of values

Numbers are compared with numbers, texts with texts, byte strings with byte strings, and lists with
lists of the same kind, item by item.  Values of any other two types cannot be compared.
-/

mutual

/-- Whether a value comes before another. -/
def less : Value → Value → Except Misfit Bool
  | bytes a, bytes b => .ok (a < b)
  | tuple xs, tuple ys => itemsLess xs ys
  | list xs, list ys => itemsLess xs ys
  | v, w =>
    match v.number?, w.number? with
    | some a, some b => .ok (a.less b)
    | _, _ =>
      match v.string?, w.string? with
      | some a, some b => .ok (a < b)
      | _, _ => .error (.incomparable v.typeName w.typeName)

/-- Whether a list of values comes before another: the first difference decides, and a list comes
before those that it begins. -/
def itemsLess : List Value → List Value → Except Misfit Bool
  | [], [] => .ok false
  | [], _ :: _ => .ok true
  | _ :: _, [] => .ok false
  | x :: xs, y :: ys => if x.sameKey y then itemsLess xs ys else less x y

end

end TargetAssembly.Value

namespace TargetAssembly.Value

/-- The part of a value that has a name. -/
def part (v : Value) (name : String) : Except Misfit Value :=
  let found : Option Value := match v with
    | record _ fields => fields.lookup name
    | artifact a =>
      if name = "exec_path" then some (text a.path)
      else if name = "root" then some (text a.root)
      else if name = "basename" then some (text a.fileName)
      else none
    | _ => none
  match found with
  | some w => .ok w
  | none => .error (.noPart v.typeName name)

/-- The items of a value: those of a list, the characters of a text, the bytes of a byte string,
the keys of a mapping, the artifacts of a set. -/
def items? : Value → Option (List Value)
  | list items => some items
  | tuple items => some items
  | text s => some (s.toList.map fun c => text (String.singleton c))
  | enumerated e => some (e.value.toList.map fun c => text (String.singleton c))
  | bytes bs => some (bs.map fun b => int b.toNat)
  | mapping _ entries => some (entries.map Prod.fst)
  | artifacts s => some (s.toList.map artifact)
  | _ => none

/-- The items of a value that has to have some. -/
def items (v : Value) : Except Misfit (List Value) :=
  match v.items? with
  | some items => .ok items
  | none => .error (.noItems v.typeName)

/-- Whether a value counts as true: neither absent nor false, and neither zero nor empty. -/
def isTrue : Value → Bool
  | null => false
  | v =>
    match v.number? with
    | some n => !n.equal (.ratio 0 1)
    | none => v.items?.all (!·.isEmpty)

theorem isTrue_text (s : String) : (text s).isTrue = !s.isEmpty := by
  simp [isTrue, number?, int?, items?, List.isEmpty_map]
  cases h : s.isEmpty <;> simp_all [String.isEmpty_iff]

mutual

/-- The type that keeps a value from being a key: that of a part which can change, if there is
one. -/
def unhashable? : Value → Option String
  | list _ => some "list"
  | mapping readOnly entries => some (mapping readOnly entries).typeName
  | tuple items => unhashableItem? items
  | record _ fields => unhashableField? fields
  | _ => none

/-- The type that keeps the items of a list from being keys. -/
def unhashableItem? : List Value → Option String
  | [] => none
  | v :: rest => v.unhashable?.or (unhashableItem? rest)

/-- The type that keeps the fields of a record from being keys. -/
def unhashableField? : List (String × Value) → Option String
  | [] => none
  | (_, v) :: rest => v.unhashable?.or (unhashableField? rest)

end

/-- A value as a key. -/
def key (v : Value) : Except Misfit Value :=
  match v.unhashable? with
  | some type => .error (.noKey type)
  | none => .ok v

/-- Bind a key to a value. -/
def bind (entries : List (Value × Value)) (k v : Value) : Except Misfit (List (Value × Value)) := do
  return Keyed.set (← k.key) v entries

/-- The key and the value that an item of a list stands for, if it has two parts. -/
def entryOf (index : Nat) (item : Value) : Except Misfit (Value × Value) :=
  match item.items? with
  | none => .error (.noEntry index)
  | some [k, v] => .ok (k, v)
  | some parts => .error (.entryLength index parts.length)

/-- Bind the entries that items stand for, the first of which has an index. -/
def bindItems (index : Nat) (entries : List (Value × Value)) :
    List Value → Except Misfit (List (Value × Value))
  | [] => .ok entries
  | item :: rest => do
    let (k, v) ← entryOf index item
    bindItems (index + 1) (← bind entries k v) rest

/-- The entries of a value as a mapping: its own, or those that its items stand for. -/
def entries : Value → Except Misfit (List (Value × Value))
  | mapping _ entries => .ok entries
  | v => do bindItems 0 [] (← v.items)

/-!
## Values as sequences

The items of a value can be listed among others, joined to one text, and united with those of other
values.  In a union each item stands once, at the place where it comes first; items that are the
same key count as one, so every item has to be a key.
-/

/-- The items of a value that are listed among others. -/
def listed (v : Value) : Except Misfit (List Value) :=
  match v.items? with
  | some items => .ok items
  | none => .error (.notListed v.typeName)

/-- The texts that items are, the first of which has an index. -/
def wordsFrom (index : Nat) : List Value → Except Misfit (List String)
  | [] => .ok []
  | item :: rest =>
    match item.string? with
    | some word => do return word :: (← wordsFrom (index + 1) rest)
    | none => .error (.notWord index item.typeName)

/-- The items of a value joined to one text. -/
def joined (separator : String) (v : Value) : Except Misfit String :=
  match v.items? with
  | some items => do return separator.intercalate (← wordsFrom 0 items)
  | none => .error .notJoined

/-- Add an item to a union, unless it is there already. -/
def addKey (found : List Value) (item : Value) : Except Misfit (List Value) := do
  let key ← item.key
  return if found.any (·.sameKey key) then found else found ++ [key]

/-- Add items to a union. -/
def addKeys (found items : List Value) : Except Misfit (List Value) := items.foldlM addKey found

/-- The items of a list, each once, at the place where it comes first. -/
def distinct (items : List Value) : Except Misfit (List Value) := addKeys [] items

/-- The union of the items that a part of some values has. -/
def unionOfPart (name : String) (values : List Value) : Except Misfit (List Value) :=
  values.foldlM (fun found v => do addKeys found (← (← v.part name).items)) []

end TargetAssembly.Value
