import TargetAssembly.ArtifactSet.Basic
import TargetAssembly.Keyed
import TargetAssembly.Value.Misfit

/-!
# A workbench of named sets

Sets and builders are kept under names, so that one set can be put into several others.  A name
holds one set or one builder at a time, and what is kept under it last takes the place of what was
there.  Every set that is made gets a number of its own as its identity; the empty set that all
share is there from the start under the name `EMPTY`, and has the number zero.

An operation that fails leaves the workbench as it was.
-/

namespace TargetAssembly

/-- An entry as it is stated. -/
inductive StatedEntry where
  /-- An artifact. -/
  | artifact (a : Artifact)
  /-- A set spelt out in place. -/
  | nested (entries : List StatedEntry)
  /-- What is kept under a name. -/
  | named (name : String)
  /-- Something that cannot be an entry. -/
  | unfit (m : Misfit)

namespace Workbench

/-- What is kept under a name. -/
inductive Item where
  /-- A set. -/
  | set (s : ArtifactSet)
  /-- A builder. -/
  | builder (b : ArtifactSetBuilder)
  /-- A builder whose entries were replaced by none, once and for all. -/
  | closed

/-- The name of the type of sets. -/
def setType : String := "OrderedArtifactSet"

/-- The name of the type of builders. -/
def builderType : String := "OrderedArtifactSetBuilder"

/-- Why an operation fails. -/
inductive Fault where
  /-- Nothing is kept under a name. -/
  | missing (name : String)
  /-- What is kept under a name, or stated, does not fit its use. -/
  | misfit (m : Misfit)
  /-- A set is to be changed in place. -/
  | immutable
deriving DecidableEq, Repr

end Workbench

/-- Sets and builders under names. -/
structure Workbench where
  /-- What is kept under each name. -/
  items : List (String × Workbench.Item) := [("EMPTY", .set .empty)]
  /-- The number of the next set that is made. -/
  next : Nat := 1

namespace Workbench

/-! ## What is kept -/

/-- What is kept under a name. -/
def find (w : Workbench) (name : String) : Except Fault Item :=
  match w.items.lookup name with
  | some item => .ok item
  | none => .error (.missing name)

/-- The set under a name, of which a part is asked for. -/
def set (w : Workbench) (name part : String) : Except Fault ArtifactSet := do
  match ← w.find name with
  | .set s => return s
  | .builder _ | .closed => throw (.misfit (.noPart builderType part))

/-- The builder under a name, of which a part is asked for; a closed one is as one without
entries. -/
def builder (w : Workbench) (name part : String) : Except Fault ArtifactSetBuilder := do
  match ← w.find name with
  | .builder b => return b
  | .closed => return {}
  | .set _ => throw (.misfit (.noPart setType part))

/-- The artifacts of the set under a name. -/
def artifacts (w : Workbench) (name : String) : Except Fault (List Artifact) := do
  match ← w.find name with
  | .set s => return s.toList
  | .builder _ | .closed => throw (.misfit (.noItems builderType))

/-- Keep something under a name. -/
def keep (w : Workbench) (name : String) (item : Item) : Workbench :=
  { w with items := Keyed.set name item w.items }

/-- Keep a builder that got more entries under its name.  The entries of a closed one cannot change:
they lack the part that would take more. -/
def update (w : Workbench) (name part : String) (b : ArtifactSetBuilder) :
    Except Fault Workbench := do
  match ← w.find name with
  | .closed => throw (.misfit (.noPart "tuple" part))
  | _ => return w.keep name (.builder b)

/-! ## Entries -/

mutual

/-- The entry that is stated; of a builder under a name a part is asked for.  Sets spelt out in
place are made one by one, with numbers from `n` on; the first number that is left comes back with
the entry. -/
def entry (w : Workbench) (part : String) (n : Nat) :
    StatedEntry → Except Fault (ArtifactEntry × Nat)
  | .artifact a => .ok (.artifact a, n)
  | .named name => do return (.child (← w.set name part), n)
  | .nested entries => do
    let (made, n) ← w.entriesFrom part n entries
    return (.child (.node (some n) made), n + 1)
  | .unfit m => .error (.misfit m)

/-- The entries that are stated, one after the other. -/
def entriesFrom (w : Workbench) (part : String) (n : Nat) :
    List StatedEntry → Except Fault (List ArtifactEntry × Nat)
  | [] => .ok ([], n)
  | e :: rest => do
    let (first, n) ← w.entry part n e
    let (others, n) ← w.entriesFrom part n rest
    return (first :: others, n)

end

/-! ## Making sets -/

/-- Make a set of stated entries, and keep it under a name. -/
def make (w : Workbench) (name : String) (entries : List StatedEntry) :
    Except Fault (Workbench × ArtifactSet) := do
  let (made, n) ← w.entriesFrom "root" w.next entries
  let s := ArtifactSet.node (some n) made
  return ({ w with next := n + 1 }.keep name (.set s), s)

/-- Build a set from the builder under a name, and keep it under another name.  The set is a new one
unless nothing was added. -/
def build (w : Workbench) (name into : String) : Except Fault (Workbench × ArtifactSet) := do
  let b ← w.builder name "build"
  if b.entries.isEmpty then return (w.keep into (.set b.build), b.build)
  else
    let s := ArtifactSet.node (some w.next) b.build.entries
    return ({ w with next := w.next + 1 }.keep into (.set s), s)

/-- Keep a fresh builder under a name. -/
def startBuilder (w : Workbench) (name : String) : Workbench := w.keep name (.builder {})

/-- Add an artifact to the builder under a name. -/
def add (w : Workbench) (name : String) (a : Except Misfit Artifact) :
    Except Fault Workbench := do
  let b ← w.builder name "add"
  w.update name "append" (b.add (← a.mapError .misfit))

/-- Add stated entries to the builder under a name. -/
def addAll (w : Workbench) (name : String) (entries : List StatedEntry) :
    Except Fault Workbench := do
  let b ← w.builder name "add_all"
  let (made, n) ← w.entriesFrom "root" w.next entries
  { w with next := n }.update name "extend" (b.addAll made)

/-- Add the artifacts of the set under a second name to the builder under a first one. -/
def addAllOf (w : Workbench) (name source : String) : Except Fault Workbench := do
  let b ← w.builder name "add_all"
  let _ ← w.find source
  let _ ← w.update name "extend" b
  w.update name "extend" (b.addAll ((← w.artifacts source).map .artifact))

/-- Add a stated set as a child to the builder under a name. -/
def addTransitive (w : Workbench) (name : String) (child : StatedEntry) :
    Except Fault Workbench := do
  let b ← w.builder name "add_transitive"
  match ← w.entry "is_empty" w.next child with
  | (.child s, n) =>
    let w := { w with next := n }
    if s.isEmpty then return w else w.update name "append" (b.addTransitive s)
  | (.artifact _, _) => throw (.misfit (.noPart "Artifact" "is_empty"))

/-! ## Questions -/

/-- Whether the set under a name holds a stated artifact; it holds no set, nor a builder. -/
def contains (w : Workbench) (name : String) (item : StatedEntry) : Except Fault Bool := do
  let container ← w.find name
  let sought ← match item with
    | .named name => do
      let _ ← w.find name
      pure none
    | item => do
      match ← w.entry "root" w.next item with
      | (.artifact a, _) => pure (some a)
      | (.child _, _) => pure none
  match container with
  | .set s => return sought.any s.contains
  | .builder _ | .closed => throw (.misfit (.noMembers builderType))

/-- Whether the same is kept under two names: sets that are equal, or one builder. -/
def same (w : Workbench) (first second : String) : Except Fault Bool := do
  match ← w.find first, ← w.find second with
  | .set s, .set t => return s.sameAs t
  | .builder _, .builder _ | .closed, .closed => return first = second
  | _, _ => return false

/-- Whether an equal set is kept under a name. -/
def sameAs (w : Workbench) (name : String) (t : Option ArtifactSet) : Except Fault Bool := do
  match ← w.find name with
  | .set s => return t.any s.sameAs
  | .builder _ | .closed => return false

/-! ## Changing parts -/

/-- The part of a builder that holds its entries. -/
def entriesPart : String := "_entries"

/-- The parts that a builder shares with all builders. -/
def sharedParts : List String := [
  "add", "add_all", "add_transitive", "build", "__delattr__", "__dir__", "__doc__", "__eq__",
  "__format__", "__ge__", "__getattribute__", "__getstate__", "__gt__", "__hash__", "__init__",
  "__init_subclass__", "__le__", "__lt__", "__module__", "__ne__", "__new__", "__reduce__",
  "__reduce_ex__", "__repr__", "__setattr__", "__sizeof__", "__slots__", "__str__",
  "__subclasshook__"]

/-- Replace a part of what is kept under a name by a row of nothing.  Sets are immutable.  Of a
builder only the entries can be replaced, which closes it. -/
def changePart (w : Workbench) (name part : String) : Except Fault Workbench := do
  match ← w.find name with
  | .set _ => throw .immutable
  | .builder _ | .closed =>
    if part = entriesPart then return w.keep name .closed
    else if part = "__class__" then throw (.misfit (.notType "tuple"))
    else if part ∈ sharedParts then throw (.misfit (.readOnlyPart builderType part))
    else throw (.misfit (.noPart builderType part))

/-- The message of a set that is to be changed in place. -/
def immutableMessage : String := setType ++ " is immutable"

end Workbench

end TargetAssembly
