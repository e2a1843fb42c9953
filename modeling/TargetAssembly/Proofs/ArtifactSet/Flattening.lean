import TargetAssembly.ArtifactSet.Basic
import TargetAssembly.Proofs.KeyedLookup

/-!
# Flattening sets of artifacts

A set is flattened level by level: its children bring their own flattened lists along, and a child
whose identity was met before is passed over.  The main statement of this file says that none of
this can be seen from outside: the result is the list of all leaves, depth first from left to right,
freed of its repetitions in one pass.  It holds for every way to tell sets apart that gives one
identity only to sets with the same artifacts.

`ArtifactSet.Holds` and `ArtifactSet.Within` say without any list what a set reaches.
-/

namespace TargetAssembly

namespace ArtifactSet

/-- An artifact is an entry of a set or is held by one of its children. -/
inductive Holds : ArtifactSet → Artifact → Prop
  /-- The artifact is an entry. -/
  | entry {s : ArtifactSet} {a : Artifact} (h : .artifact a ∈ s.entries) : Holds s a
  /-- A child holds the artifact. -/
  | child {s t : ArtifactSet} {a : Artifact} (h : .child t ∈ s.entries) (ht : Holds t a) :
      Holds s a

/-- A set is a child of a second one or lies within one of its children. -/
inductive Within : ArtifactSet → ArtifactSet → Prop
  /-- The set is a child. -/
  | child {s t : ArtifactSet} (h : .child t ∈ s.entries) : Within t s
  /-- The set lies within a child. -/
  | deeper {s t u : ArtifactSet} (h : .child t ∈ s.entries) (ht : Within u t) : Within u s

/-- Identities that are the same for two sets within `s` only if these hold the same artifacts. -/
def Faithful {ι : Type} (identity : ArtifactSet → ι) (s : ArtifactSet) : Prop :=
  ∀ t u, Within t s → Within u s → identity t = identity u → ∀ a, t.Holds a ↔ u.Holds a

/-- What holds of a set whenever it holds of its children holds of all sets. -/
lemma induction_children {P : ArtifactSet → Prop}
    (step : ∀ s : ArtifactSet, (∀ t, .child t ∈ s.entries → P t) → P s) (s : ArtifactSet) :
    P s := by
  -- entries are gone through one by one, so the statement is proved of lists of them as well
  refine ArtifactSet.leaves.induct P (fun entries => ∀ t, .child t ∈ entries → P t)
    ?_ ?_ ?_ ?_ s
  · intro name entries ih
    exact step (.node name entries) ih
  · intro t h
    exact absurd h (by simp)
  · intro a rest ih t h
    exact ih t (by simpa using h)
  · intro u rest hu ih t h
    rcases List.mem_cons.mp h with h | h
    · rw [ArtifactEntry.child.inj h]
      exact hu
    · exact ih t h

lemma leaves_eq (s : ArtifactSet) : s.leaves = ArtifactEntry.leavesOf s.entries := by
  cases s with
  | node name entries => rw [leaves, ArtifactSet.entries]

lemma flatten_eq {ι : Type} [DecidableEq ι] (identity : ArtifactSet → ι) (s : ArtifactSet) :
    s.flatten identity = ArtifactEntry.collect identity [] [] s.entries := by
  cases s with
  | node name entries => rw [flatten, ArtifactSet.entries]

end ArtifactSet

lemma ArtifactEntry.mem_leavesOf {a : Artifact} {entries : List ArtifactEntry} :
    a ∈ leavesOf entries ↔
      .artifact a ∈ entries ∨ ∃ t, .child t ∈ entries ∧ a ∈ t.leaves := by
  induction entries with
  | nil => simp [leavesOf]
  | cons e rest ih =>
    cases e with
    | artifact b => simp [leavesOf, ih, or_assoc]
    | child t =>
      simp only [leavesOf, List.mem_append, ih, List.mem_cons, ArtifactEntry.child.injEq,
        reduceCtorEq, false_or]
      constructor
      · rintro (h | h | ⟨u, hu, h⟩)
        · exact Or.inr ⟨t, Or.inl rfl, h⟩
        · exact Or.inl h
        · exact Or.inr ⟨u, Or.inr hu, h⟩
      · rintro (h | ⟨u, rfl | hu, h⟩)
        · exact Or.inr (Or.inl h)
        · exact Or.inl h
        · exact Or.inr (Or.inr ⟨u, hu, h⟩)

namespace ArtifactSet

lemma mem_leaves_iff {s : ArtifactSet} {a : Artifact} : a ∈ s.leaves ↔ s.Holds a := by
  induction s using induction_children with
  | step s ih =>
    rw [leaves_eq, ArtifactEntry.mem_leavesOf]
    constructor
    · rintro (h | ⟨t, ht, h⟩)
      · exact .entry h
      · exact .child ht ((ih t ht).mp h)
    · intro h
      cases h with
      | entry h => exact Or.inl h
      | child ht h => exact Or.inr ⟨_, ht, (ih _ ht).mpr h⟩

end ArtifactSet

/-! ## One pass over the entries -/

section Collect

variable {ι : Type} [DecidableEq ι] {identity : ArtifactSet → ι}

/-- A pass over some entries.  `before` stands for all leaves to the left of them; what was found
so far is that list without its repetitions, and a child whose identity was visited has its leaves
among it. -/
lemma ArtifactEntry.collect_eq {entries : List ArtifactEntry}
    (flat : ∀ t, .child t ∈ entries → t.flatten identity = t.leaves.eraseDups)
    (same : ∀ t u, .child t ∈ entries → .child u ∈ entries → identity t = identity u →
      ∀ a, a ∈ t.leaves ↔ a ∈ u.leaves)
    (visited : List ι) (before : List Artifact)
    (met : ∀ t, .child t ∈ entries → identity t ∈ visited → ∀ a ∈ t.leaves, a ∈ before) :
    collect identity visited before.eraseDups entries =
      (before ++ leavesOf entries).eraseDups := by
  induction entries generalizing visited before with
  | nil => simp [collect, leavesOf]
  | cons e rest ih =>
    have flat' : ∀ t, .child t ∈ rest → t.flatten identity = t.leaves.eraseDups :=
      fun t ht => flat t (List.mem_cons_of_mem e ht)
    have same' : ∀ t u, .child t ∈ rest → .child u ∈ rest → identity t = identity u →
        ∀ a, a ∈ t.leaves ↔ a ∈ u.leaves :=
      fun t u ht hu => same t u (List.mem_cons_of_mem e ht) (List.mem_cons_of_mem e hu)
    cases e with
    | artifact b =>
      have hb : [b].eraseDups = [b] := eraseDups_eq_self (List.nodup_singleton b)
      rw [collect, leavesOf, ← hb, addNew_eraseDups,
        ih flat' same' visited (before ++ [b]) fun t ht hv a ha =>
          List.mem_append_left _ (met t (List.mem_cons_of_mem _ ht) hv a ha)]
      simp
    | child t =>
      have ht : .child t ∈ ArtifactEntry.child t :: rest := List.mem_cons_self
      rw [collect, leavesOf]
      split_ifs with hv
      · -- the child was met before, so all its leaves stand to the left already
        rw [ih flat' same' visited before fun u hu => met u (List.mem_cons_of_mem _ hu),
          ← List.append_assoc, ← eraseDups_append_eraseDups (before ++ t.leaves),
          eraseDups_append_of_subset (met t ht hv), eraseDups_append_eraseDups]
      · -- the child is new: from now on its leaves stand to the left
        rw [flat t ht, addNew_eraseDups, ih flat' same' (identity t :: visited)
          (before ++ t.leaves) ?_, List.append_assoc]
        intro u hu hvisited a ha
        rcases List.mem_cons.mp hvisited with heq | hvisited
        · exact List.mem_append_right _
            ((same u t (List.mem_cons_of_mem _ hu) ht heq a).mp ha)
        · exact List.mem_append_left _ (met u (List.mem_cons_of_mem _ hu) hvisited a ha)

end Collect

namespace ArtifactSet

section Flatten

variable {ι : Type} [DecidableEq ι] {identity : ArtifactSet → ι}

omit [DecidableEq ι] in
lemma Faithful.child {s t : ArtifactSet} (h : Faithful identity s) (ht : .child t ∈ s.entries) :
    Faithful identity t :=
  fun u v hu hv => h u v (.deeper ht hu) (.deeper ht hv)

lemma faithful_id (s : ArtifactSet) : Faithful id s := by
  rintro t u - - rfl a
  exact Iff.rfl

lemma flatten_of_faithful {s : ArtifactSet} (h : Faithful identity s) :
    s.flatten identity = s.leaves.eraseDups := by
  induction s using induction_children with
  | step s ih =>
    have flat : ∀ t, .child t ∈ s.entries → t.flatten identity = t.leaves.eraseDups :=
      fun t ht => ih t ht (h.child ht)
    have same : ∀ t u, .child t ∈ s.entries → .child u ∈ s.entries → identity t = identity u →
        ∀ a, a ∈ t.leaves ↔ a ∈ u.leaves := by
      intro t u ht hu heq a
      rw [mem_leaves_iff, mem_leaves_iff]
      exact h t u (.child ht) (.child hu) heq a
    -- the pass over all entries starts with nothing to the left
    have pass := ArtifactEntry.collect_eq flat same [] [] (by simp)
    rw [flatten_eq, leaves_eq]
    simpa using pass

end Flatten

lemma toList_eq (s : ArtifactSet) : s.toList = s.leaves.eraseDups :=
  flatten_of_faithful (faithful_id s)

lemma nodup_toList (s : ArtifactSet) : s.toList.Nodup := by
  rw [toList_eq]
  exact nodup_eraseDups s.leaves

lemma mem_toList {s : ArtifactSet} {a : Artifact} : a ∈ s.toList ↔ s.Holds a := by
  rw [toList_eq, List.mem_eraseDups, mem_leaves_iff]

lemma sameAs_iff {s t : ArtifactSet} : s.sameAs t = true ↔ s.toList = t.toList := by
  rw [sameAs, beq_iff_eq]

lemma isEmpty_iff {s : ArtifactSet} : s.isEmpty = true ↔ s.leaves = [] := by
  rw [isEmpty, List.isEmpty_iff, toList_eq, eraseDups_eq_nil_iff]

/-! ## The flattened list -/

/-- Flattening level by level, with shared children passed over, gives the leaves without their
repetitions, whatever the identities by which children are told apart.  So every artifact that a
set holds stands in the list once, nothing else does, and size, membership and emptiness are those
of that list. -/
theorem flatten_eq_eraseDups_leaves {ι : Type} [DecidableEq ι] {identity : ArtifactSet → ι}
    {s : ArtifactSet} (h : Faithful identity s) :
    s.flatten identity = s.leaves.eraseDups ∧
      s.toList = s.leaves.eraseDups ∧
      (∀ a, s.Holds a → s.toList.count a = 1) ∧
      (∀ a, ¬ s.Holds a → s.toList.count a = 0) ∧
      s.size = s.leaves.eraseDups.length ∧
      (∀ a, s.contains a = true ↔ a ∈ s.leaves.eraseDups) ∧
      (s.isEmpty = true ↔ s.leaves.eraseDups = []) := by
  refine ⟨flatten_of_faithful h, toList_eq s, ?_, ?_, ?_, ?_, ?_⟩
  · intro a ha
    exact List.count_eq_one_of_mem (nodup_toList s) (mem_toList.mpr ha)
  · intro a ha
    exact List.count_eq_zero.mpr (fun hm => ha (mem_toList.mp hm))
  · rw [size, toList_eq]
  · intro a
    rw [contains, List.contains_iff_mem, toList_eq]
  · rw [isEmpty_iff, eraseDups_eq_nil_iff]

/-- A set with two artifacts, the second of them twice. -/
def sharedPair : ArtifactSet :=
  .node (some 1) [.artifact ⟨"a", "bin"⟩, .artifact ⟨"b", "src"⟩, .artifact ⟨"b", "src"⟩]

/-- A set with an artifact and the pair. -/
def aroundPair : ArtifactSet := .node (some 2) [.artifact ⟨"b", "bin"⟩, .child sharedPair]

/-- A set in which the pair stands directly, within another child, and once more at the end. -/
def sharedTwice : ArtifactSet :=
  .node (some 3) [.child sharedPair, .child aroundPair, .child sharedPair]

lemma within_sharedTwice {t : ArtifactSet} (h : Within t sharedTwice) :
    t = sharedPair ∨ t = aroundPair := by
  -- the pair has no children, and the set around it has no other child
  have pair : ∀ u, ¬ Within u sharedPair := by
    rintro u (hu | ⟨hu, -⟩) <;> simp [sharedPair, entries] at hu
  have around : ∀ u, Within u aroundPair → u = sharedPair := by
    rintro u (hu | ⟨hu, hd⟩)
    · simpa [aroundPair, entries] using hu
    · simp only [aroundPair, entries, List.mem_cons, reduceCtorEq, ArtifactEntry.child.injEq,
        List.not_mem_nil, or_false, false_or] at hu
      exact absurd (hu ▸ hd) (pair u)
  have top : ∀ u, .child u ∈ sharedTwice.entries → u = sharedPair ∨ u = aroundPair := by
    intro u hu
    simp only [sharedTwice, entries, List.mem_cons, ArtifactEntry.child.injEq, List.not_mem_nil,
      or_false] at hu
    tauto
  rcases h with hu | ⟨hu, hd⟩
  · exact top t hu
  · rcases top _ hu with rfl | rfl
    · exact absurd hd (pair t)
    · exact Or.inl (around t hd)

theorem flatten_sharedTwice :
    Faithful name sharedTwice ∧
      sharedTwice.flatten name = [⟨"a", "bin"⟩, ⟨"b", "src"⟩, ⟨"b", "bin"⟩] := by
  have faithful : Faithful name sharedTwice := by
    rintro t u ht hu heq a
    rcases within_sharedTwice ht with rfl | rfl <;> rcases within_sharedTwice hu with rfl | rfl
    · exact Iff.rfl
    · exact absurd heq (by decide)
    · exact absurd heq (by decide)
    · exact Iff.rfl
  refine ⟨faithful, ?_⟩
  rw [(flatten_eq_eraseDups_leaves faithful).1]
  decide

end ArtifactSet

/-!
## Sets that are put together

What a set made of a list, or of the entries of a builder, flattens to.  An empty set is not kept as
a child, and a builder without entries gives the set that all share: neither shows in the list.
-/

namespace ArtifactEntry

lemma leavesOf_append (xs ys : List ArtifactEntry) :
    leavesOf (xs ++ ys) = leavesOf xs ++ leavesOf ys := by
  induction xs with
  | nil => simp [leavesOf]
  | cons e xs ih => cases e <;> simp [leavesOf, ih]

lemma leavesOf_map_artifact (l : List Artifact) : leavesOf (l.map .artifact) = l := by
  induction l with
  | nil => simp [leavesOf]
  | cons a l ih => simp [leavesOf, ih]

lemma leavesOf_map_child (sets : List ArtifactSet) :
    leavesOf (sets.map .child) = sets.flatMap (·.leaves) := by
  induction sets with
  | nil => simp [leavesOf]
  | cons s sets ih => simp [leavesOf, ih]

end ArtifactEntry

namespace ArtifactSet

lemma toList_ofList (l : List Artifact) : (ofList l).toList = l.eraseDups := by
  rw [toList_eq, ofList, ofEntries, leaves, ArtifactEntry.leavesOf_map_artifact]

lemma toList_empty : empty.toList = [] := by
  simp [toList_eq, empty, leaves, ArtifactEntry.leavesOf]

end ArtifactSet

namespace ArtifactSetBuilder

lemma leavesOf_addTransitive (b : ArtifactSetBuilder) (s : ArtifactSet) :
    ArtifactEntry.leavesOf (b.addTransitive s).entries =
      ArtifactEntry.leavesOf b.entries ++ s.leaves := by
  rw [addTransitive]
  split_ifs with h
  · rw [ArtifactSet.isEmpty_iff.mp h, List.append_nil]
  · simp [ArtifactEntry.leavesOf_append, ArtifactEntry.leavesOf]

lemma leavesOf_foldl_addTransitive (b : ArtifactSetBuilder) (sets : List ArtifactSet) :
    ArtifactEntry.leavesOf (sets.foldl addTransitive b).entries =
      ArtifactEntry.leavesOf b.entries ++ sets.flatMap (·.leaves) := by
  induction sets generalizing b with
  | nil => simp
  | cons s sets ih => simp [ih, leavesOf_addTransitive]

lemma toList_build (b : ArtifactSetBuilder) :
    b.build.toList = (ArtifactEntry.leavesOf b.entries).eraseDups := by
  rw [build]
  split_ifs with h
  · rw [List.isEmpty_iff.mp h, ArtifactSet.toList_empty, ArtifactEntry.leavesOf, List.eraseDups_nil]
  · rw [ArtifactSet.toList_eq, ArtifactSet.ofEntries, ArtifactSet.leaves]

/-- A builder to which sets were added builds the union of them. -/
lemma toList_build_addTransitive (sets : List ArtifactSet) :
    (sets.foldl addTransitive {}).build.toList = (sets.flatMap (·.toList)).eraseDups := by
  rw [toList_build, leavesOf_foldl_addTransitive, ArtifactEntry.leavesOf, List.nil_append,
    ← eraseDups_flatMap_eraseDups]
  simp only [ArtifactSet.toList_eq]

end ArtifactSetBuilder

end TargetAssembly
