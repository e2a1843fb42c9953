import TargetAssembly.Text.Split

/-!
# Sets of artifacts in a stable order

A set lists artifacts and other sets, its children, in the order in which they were put in.
`leaves` is what that means: every artifact below the set, depth first from left to right.
`toList` is the set flattened, each artifact once, at the place where it comes first.  It is
formed level by level: a child is flattened by itself, and a child that was met before is passed
over.

Children can be shared, so a set carries a name by which it can be told apart from another set
with the same entries.  `sameAs` looks at neither names nor nesting: sets are the same to it when
they flatten to the same list.
-/

namespace TargetAssembly

/-!
## Artifacts

An artifact is a file that a build reads or makes: a path below a root.  Two artifacts are the
same when path and root are.
-/

/-- A file that a build reads or makes. -/
structure Artifact where
  /-- The path below the root. -/
  path : String
  /-- The tree that the path belongs to; made files live in `bin`. -/
  root : String := "bin"
deriving DecidableEq, Repr

/-- The last component of a path. -/
def lastComponent (path : String) : String :=
  String.ofList (Text.afterLast '/' path.toList)

namespace Artifact

/-- The file name of an artifact. -/
def fileName (a : Artifact) : String := lastComponent a.path

end Artifact

end TargetAssembly

namespace TargetAssembly

mutual

/-- Artifacts and sets of artifacts, in the order in which they were put in. -/
inductive ArtifactSet where
  /-- A set with its name, if it has one, and its entries. -/
  | node (name : Option Nat) (entries : List ArtifactEntry)

/-- One entry of a set. -/
inductive ArtifactEntry where
  /-- A single artifact. -/
  | artifact (a : Artifact)
  /-- A set put in as a whole. -/
  | child (s : ArtifactSet)

end

/-! ## Identity -/

mutual

/-- Whether two sets are one: they carry the same name and have the same entries.  The names are
looked at first. -/
def ArtifactSet.decEq : (s t : ArtifactSet) → Decidable (s = t)
  | .node m xs, .node n ys =>
    if h : m = n then
      match ArtifactEntry.decEqList xs ys with
      | isTrue h' => isTrue (by rw [h, h'])
      | isFalse h' => isFalse (by intro e; cases e; exact h' rfl)
    else isFalse (by intro e; cases e; exact h rfl)

/-- Whether two entries are the same artifact or one set. -/
def ArtifactEntry.decEq : (x y : ArtifactEntry) → Decidable (x = y)
  | .artifact a, .artifact b =>
    if h : a = b then isTrue (by rw [h])
    else isFalse (by intro e; cases e; exact h rfl)
  | .child s, .child t =>
    match ArtifactSet.decEq s t with
    | isTrue h => isTrue (by rw [h])
    | isFalse h => isFalse (by intro e; cases e; exact h rfl)
  | .artifact _, .child _ => isFalse nofun
  | .child _, .artifact _ => isFalse nofun

/-- Whether two lists have the same entries. -/
def ArtifactEntry.decEqList : (xs ys : List ArtifactEntry) → Decidable (xs = ys)
  | [], [] => isTrue rfl
  | x :: xs, y :: ys =>
    match ArtifactEntry.decEq x y with
    | isTrue h =>
      match ArtifactEntry.decEqList xs ys with
      | isTrue h' => isTrue (by rw [h, h'])
      | isFalse h' => isFalse (by intro e; cases e; exact h' rfl)
    | isFalse h => isFalse (by intro e; cases e; exact h rfl)
  | [], _ :: _ => isFalse nofun
  | _ :: _, [] => isFalse nofun

end

instance : DecidableEq ArtifactSet := ArtifactSet.decEq
instance : DecidableEq ArtifactEntry := ArtifactEntry.decEq

/-! ## Meaning -/

mutual

/-- Every artifact below a set, depth first from left to right. -/
def ArtifactSet.leaves : ArtifactSet → List Artifact
  | .node _ entries => ArtifactEntry.leavesOf entries

/-- Every artifact below some entries. -/
def ArtifactEntry.leavesOf : List ArtifactEntry → List Artifact
  | [] => []
  | .artifact a :: rest => a :: ArtifactEntry.leavesOf rest
  | .child s :: rest => s.leaves ++ ArtifactEntry.leavesOf rest

end

/-! ## Flattening -/

/-- Add artifacts at the end of a list, without those that the list holds already. -/
def addNew (found more : List Artifact) : List Artifact := found ++ more.removeAll found

section Flatten

variable {ι : Type} [DecidableEq ι] (identity : ArtifactSet → ι)

mutual

/-- A set flattened, where `identity` says which children are the same. -/
def ArtifactSet.flatten : ArtifactSet → List Artifact
  | .node _ entries => ArtifactEntry.collect [] [] entries

/-- One pass over entries.  `visited` holds the identities of the children met so far, `found` the
artifacts. -/
def ArtifactEntry.collect (visited : List ι) (found : List Artifact) :
    List ArtifactEntry → List Artifact
  | [] => found
  | .artifact a :: rest => ArtifactEntry.collect visited (addNew found [a]) rest
  | .child s :: rest =>
    if identity s ∈ visited then ArtifactEntry.collect visited found rest
    else ArtifactEntry.collect (identity s :: visited) (addNew found s.flatten) rest

end

end Flatten

namespace ArtifactSet

/-- The name of a set. -/
def name : ArtifactSet → Option Nat
  | .node name _ => name

/-- The entries of a set. -/
def entries : ArtifactSet → List ArtifactEntry
  | .node _ entries => entries

/-- The artifacts of a set, each once, at the place where it comes first. -/
def toList (s : ArtifactSet) : List Artifact := s.flatten id

/-- Sets are equal when they flatten to the same list. -/
def sameAs (s t : ArtifactSet) : Bool := s.toList == t.toList

/-- A set with the given entries. -/
def ofEntries (entries : List ArtifactEntry) : ArtifactSet := .node none entries

/-- A set of artifacts. -/
def ofList (artifacts : List Artifact) : ArtifactSet := ofEntries (artifacts.map .artifact)

/-- The empty set that all share. -/
def empty : ArtifactSet := .node (some 0) []

/-- Whether a set is the empty set that all share, and not merely equal to it. -/
def isShared (s : ArtifactSet) : Bool := s = empty

/-- Whether a set holds no artifact. -/
def isEmpty (s : ArtifactSet) : Bool := s.toList.isEmpty

/-- The number of artifacts of a set. -/
def size (s : ArtifactSet) : Nat := s.toList.length

/-- Whether a set holds an artifact. -/
def contains (s : ArtifactSet) (a : Artifact) : Bool := s.toList.contains a

/-- The text of a set: the paths of its artifacts. -/
def text (s : ArtifactSet) : String :=
  "OrderedArtifactSet([" ++ ", ".intercalate (s.toList.map (·.path)) ++ "])"

end ArtifactSet

/-!
## Builders

A builder gathers entries one after the other.  Building a set reads the entries and leaves the
builder as it is, so a set that was built stays what it is while the builder goes on.
-/

/-- The entries gathered so far. -/
structure ArtifactSetBuilder where
  /-- The entries, in the order in which they were added. -/
  entries : List ArtifactEntry := []

namespace ArtifactSetBuilder

/-- Add one artifact. -/
def add (b : ArtifactSetBuilder) (a : Artifact) : ArtifactSetBuilder :=
  ⟨b.entries ++ [.artifact a]⟩

/-- Add entries as they are. -/
def addAll (b : ArtifactSetBuilder) (entries : List ArtifactEntry) : ArtifactSetBuilder :=
  ⟨b.entries ++ entries⟩

/-- Add a set as a child; an empty set adds nothing. -/
def addTransitive (b : ArtifactSetBuilder) (s : ArtifactSet) : ArtifactSetBuilder :=
  if s.isEmpty then b else ⟨b.entries ++ [.child s]⟩

/-- The set of the entries gathered so far; without entries it is the empty set that all share. -/
def build (b : ArtifactSetBuilder) : ArtifactSet :=
  if b.entries.isEmpty then .empty else .ofEntries b.entries

end ArtifactSetBuilder

end TargetAssembly
