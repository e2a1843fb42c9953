import TargetAssembly.Library
import TargetAssembly.Proofs.ArtifactSet.Flattening

/-!
# The union of libraries

The union of a library with others holds, field by field, the entries of all of them, each once and
in the order in which they are first seen.  So it does not matter whether libraries are joined one
after the other or at once, and a library that brings nothing new can be left out.  Sets of
artifacts come to the same list in another way, each set flattened by itself first: `union_exact`
says all this together.
-/

namespace TargetAssembly

/-! ## Fields -/

/-- The fields of a library, by the type of their entries. -/
inductive Library.Field : Type → Type
  /-- The frameworks to link. -/
  | sdkFrameworks : Field String
  /-- The source files. -/
  | sources : Field Artifact
  /-- The storyboards. -/
  | storyboards : Field Artifact
  /-- The data models. -/
  | dataModels : Field Artifact
  /-- The archives to link. -/
  | linkedLibraries : Field Artifact

namespace Library

variable {α : Type}

/-- The entries of a library in a field. -/
def entries (l : Library) : Field α → List α
  | .sdkFrameworks => l.sdkFrameworks
  | .sources => l.sources
  | .storyboards => l.storyboards
  | .dataModels => l.dataModels
  | .linkedLibraries => l.linkedLibraries

/-- Entries of every field can be compared. -/
def Field.decEq : Field α → DecidableEq α
  | .sdkFrameworks => inferInstance
  | .sources | .storyboards | .dataModels | .linkedLibraries => inferInstance

lemma ext_entries {l m : Library} (same : ∀ {α : Type} (f : Field α), l.entries f = m.entries f) :
    l = m := by
  have frameworks := same .sdkFrameworks
  have sources := same .sources
  have storyboards := same .storyboards
  have dataModels := same .dataModels
  have linked := same .linkedLibraries
  cases l
  cases m
  simp only [entries] at frameworks sources storyboards dataModels linked
  rw [frameworks, sources, storyboards, dataModels, linked]

variable (l m : Library) (ls ms ns : List Library)

/-- All entries of libraries in a field, library by library. -/
def stream (ls : List Library) (f : Field α) : List α := ls.flatMap (·.entries f)

@[simp] theorem stream_cons (f : Field α) : stream (l :: ls) f = l.entries f ++ stream ls f :=
  List.flatMap_cons

@[simp] theorem stream_append (f : Field α) : stream (ls ++ ms) f = stream ls f ++ stream ms f :=
  List.flatMap_append

@[simp] theorem entries_empty (f : Field α) : ({} : Library).entries f = [] := by
  cases f <;> rfl

lemma entries_union [decEq : DecidableEq α] (f : Field α) :
    (l.union ls).entries f = (stream (l :: ls) f).eraseDups := by
  -- there is but one way to compare entries
  rw [Subsingleton.elim decEq f.decEq]
  cases f <;> rfl

lemma firstSeen_union (f : Field α) : FirstSeen (stream (l :: ls) f) ((l.union ls).entries f) := by
  have := f.decEq
  exact firstSeen_iff.mpr (entries_union l ls f)

/-! ## Unions of unions -/

variable {l m ls ms}

/-- Libraries whose entries come to the same in all fields have the same union. -/
lemma union_congr
    (same : ∀ {α : Type} [DecidableEq α] (f : Field α),
      (stream (l :: ls) f).eraseDups = (stream (m :: ms) f).eraseDups) :
    l.union ls = m.union ms := by
  refine ext_entries fun f => ?_
  have := f.decEq
  rw [entries_union, entries_union, same f]

variable (l m ls ms)

/-- A union comes to the same as what it was made of. -/
lemma eraseDups_stream_union [DecidableEq α] (f : Field α) :
    (stream (l.union ls :: ms) f).eraseDups = (stream (l :: (ls ++ ms)) f).eraseDups := by
  rw [stream_cons, entries_union, ← List.cons_append, stream_append]
  exact eraseDups_append_congr (eraseDups_eq_self (nodup_eraseDups _)) rfl

lemma union_union : (l.union ls).union ms = l.union (ls ++ ms) :=
  union_congr fun f => l.eraseDups_stream_union ls ms f

lemma union_append_union :
    l.union (ls ++ m.union ms :: ns) = l.union (ls ++ m :: (ms ++ ns)) := by
  refine union_congr fun f => ?_
  rw [← List.cons_append, ← List.cons_append, stream_append, stream_append]
  exact eraseDups_append_congr rfl (m.eraseDups_stream_union ms ns f)

variable {l ls ms}

/-- Libraries that bring nothing new can be left out at the end. -/
lemma union_append_of_known
    (known : ∀ {α : Type} (f : Field α), ∀ x ∈ stream ms f, x ∈ stream (l :: ls) f) :
    l.union (ls ++ ms) = l.union ls := by
  refine union_congr fun f => ?_
  rw [← List.cons_append, stream_append]
  exact eraseDups_append_of_subset (known f)

lemma union_append_of_subset (among : ms ⊆ l :: ls) : l.union (ls ++ ms) = l.union ls := by
  refine union_append_of_known fun f x hx => ?_
  obtain ⟨n, hn, hx⟩ := List.mem_flatMap.mp hx
  exact List.mem_flatMap.mpr ⟨n, among hn, hx⟩

variable (l ls ms)

lemma union_append_empty : l.union (ls ++ {} :: ms) = l.union (ls ++ ms) :=
  union_congr fun f => by simp

lemma empty_union : ({} : Library).union (l :: ls) = l.union ls :=
  union_congr fun f => by simp

/-! ## Sets of the artifacts of a field -/

/-- The set whose entries are sets for a field, one for each library, flattens to the field of the
union, whatever its children are told apart by. -/
lemma flatten_children {ι : Type} [DecidableEq ι] {identity : ArtifactSet → ι} {name : Option Nat}
    {sets : List ArtifactSet} {f : Field Artifact}
    (each : sets.map (·.toList) = (l :: ls).map fun k => (k.entries f).eraseDups)
    (faithful : (ArtifactSet.node name (sets.map .child)).Faithful identity) :
    (ArtifactSet.node name (sets.map .child)).flatten identity = (l.union ls).entries f := by
  have lists : sets.flatMap (·.toList) = (l :: ls).flatMap fun k => (k.entries f).eraseDups :=
    congrArg List.flatten each
  calc (ArtifactSet.node name (sets.map .child)).flatten identity
      = (sets.flatMap (·.leaves)).eraseDups := by
        rw [ArtifactSet.flatten_of_faithful faithful, ArtifactSet.leaves,
          ArtifactEntry.leavesOf_map_child]
    _ = (sets.flatMap (·.toList)).eraseDups := by
        simp only [ArtifactSet.toList_eq, eraseDups_flatMap_eraseDups]
    _ = (l.union ls).entries f := by
        rw [lists, eraseDups_flatMap_eraseDups, entries_union, stream]

/-! ## Main result -/

/-- Libraries can be joined one after the other, or some of them first, or all at once.  What is
among the joined libraries already adds nothing, and neither does the empty library.  In every field
the union holds the entries of all libraries, each once, in the order in which they are first seen,
and no other list is like that.  In the fields of artifacts it is what a set of sets flattens to,
one for each library, also where sets are shared. -/
theorem union_exact (a b c : Library) (ls ms ns : List Library) :
    ((a.union [b]).union [c] = a.union [b, c] ∧ a.union [b.union [c]] = a.union [b, c] ∧
      (a.union ls).union ms = a.union (ls ++ ms) ∧
      a.union (ls ++ b.union ms :: ns) = a.union (ls ++ b :: (ms ++ ns))) ∧
    (a.union [a] = a.union [] ∧ (a.union [b]).union [a] = a.union [b] ∧
      (ms ⊆ a :: ls → (a.union ls).union ms = a.union ls)) ∧
    (({} : Library).union [a] = a.union [] ∧ a.union [{}] = a.union [] ∧
      ({} : Library).union (a :: ls) = a.union ls ∧
      a.union (ls ++ {} :: ms) = a.union (ls ++ ms)) ∧
    (∀ {α : Type} (f : Field α) (l : List α),
      FirstSeen ((a :: ls).flatMap (·.entries f)) l ↔ l = (a.union ls).entries f) ∧
    ∀ f : Field Artifact,
      (ArtifactSet.ofEntries ((a :: ls).map fun k => .child (.ofList (k.entries f)))).toList =
        (a.union ls).entries f ∧
      ∀ {ι : Type} [DecidableEq ι] (identity : ArtifactSet → ι) (name : Option Nat)
        (sets : List ArtifactSet),
        (sets.map (·.toList) = (a :: ls).map fun k => (k.entries f).eraseDups) →
        (ArtifactSet.node name (sets.map .child)).Faithful identity →
        (ArtifactSet.node name (sets.map .child)).flatten identity = (a.union ls).entries f := by
  refine ⟨⟨union_union a [b] [c], a.union_append_union b [] [c] [], union_union a ls ms,
    a.union_append_union b ls ms ns⟩, ⟨?_, ?_, ?_⟩, ⟨a.empty_union [], a.union_append_empty [] [],
    a.empty_union ls, a.union_append_empty ls ms⟩, ?_, ?_⟩
  · have among : [a] ⊆ a :: [] := List.Subset.refl _
    exact union_append_of_subset among
  · rw [union_union]
    exact union_append_of_subset (by simp)
  · intro among
    rw [union_union]
    exact union_append_of_subset among
  · intro α f l
    exact ⟨fun seen => seen.unique (a.firstSeen_union ls f), fun h => h ▸ a.firstSeen_union ls f⟩
  · intro f
    refine ⟨?_, fun identity name sets each faithful => a.flatten_children ls each faithful⟩
    have each : ((a :: ls).map fun k => ArtifactSet.ofList (k.entries f)).map (·.toList) =
        (a :: ls).map fun k => (k.entries f).eraseDups := by
      rw [List.map_map]
      exact List.map_congr_left fun k _ => ArtifactSet.toList_ofList _
    have flat := a.flatten_children ls each (ArtifactSet.faithful_id (.node none _))
    rwa [List.map_map] at flat

/-- A library that lists one of its archives twice. -/
def repeating : Library := { linkedLibraries := [⟨"b.a", "bin"⟩, ⟨"a.a", "bin"⟩, ⟨"b.a", "bin"⟩] }

/-- A library with an archive of the other one, and with one of the same path under another root. -/
def overlapping : Library :=
  { sdkFrameworks := ["UIKit"], linkedLibraries := [⟨"a.a", "src"⟩, ⟨"a.a", "bin"⟩] }

/-- The archives of the two libraries, and the set of the first once more. -/
def archiveSets : List ArtifactSet :=
  [.ofList repeating.linkedLibraries, .ofList overlapping.linkedLibraries,
    .ofList repeating.linkedLibraries]

/-- A library that is joined twice adds nothing the second time, nor does its set, which is
shared. -/
theorem union_overlapping :
    [repeating] ⊆ [repeating, overlapping] ∧
    (repeating.union [overlapping]).union [repeating] = repeating.union [overlapping] ∧
    archiveSets.map (·.toList) =
      [repeating, overlapping, repeating].map (fun k => (k.entries .linkedLibraries).eraseDups) ∧
    (ArtifactSet.node none (archiveSets.map .child)).Faithful id ∧
    (ArtifactSet.node none (archiveSets.map .child)).flatten id =
      [⟨"b.a", "bin"⟩, ⟨"a.a", "bin"⟩, ⟨"a.a", "src"⟩] := by
  have among : [repeating] ⊆ [repeating, overlapping] := by simp
  have each : archiveSets.map (·.toList) = [repeating, overlapping, repeating].map fun k =>
      (k.entries .linkedLibraries).eraseDups := by decide
  have faithful := ArtifactSet.faithful_id (.node none (archiveSets.map .child))
  obtain ⟨-, ⟨-, -, known⟩, -⟩ := union_exact repeating {} {} [overlapping] [repeating] []
  obtain ⟨-, -, -, -, sets⟩ := union_exact repeating {} {} [overlapping, repeating] [] []
  refine ⟨among, known among, each, faithful, ?_⟩
  rw [(sets .linkedLibraries).2 id none archiveSets each faithful]
  decide

end Library

end TargetAssembly
