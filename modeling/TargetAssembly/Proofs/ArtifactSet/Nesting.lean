import TargetAssembly.Proofs.ArtifactSet.Flattening

/-!
# Nesting does not show

Two sets may differ at one place, at some depth: the first has some entries there, the second has
others.  `DiffersAt` says so, and keeps the entries that stand before the place, in the set where it
is and in the sets around it.  The sets around the place are sets of their own and may carry other
names.

Whatever the place is, such a difference does not show if the artifacts to its left, together with
those in it, are the same without their repetitions.  So it does not show whether artifacts are
gathered in a child, whether they come from this child or from an equal one, and whether what was
there before is there once more.
-/

namespace TargetAssembly

namespace ArtifactSet

/-- Two sets differ at one place at some depth: the first has the entries `x` there, the second the
entries `y`.  The list between holds all entries that stand before the place. -/
inductive DiffersAt (x y : List ArtifactEntry) :
    List ArtifactEntry → ArtifactSet → ArtifactSet → Prop
  /-- The place is among the entries of the sets. -/
  | here (m n : Option Nat) (before after : List ArtifactEntry) :
    DiffersAt x y before (.node m (before ++ x ++ after)) (.node n (before ++ y ++ after))
  /-- The place is in a child. -/
  | deeper {earlier : List ArtifactEntry} {s t : ArtifactSet} (m n : Option Nat)
    (before after : List ArtifactEntry) (h : DiffersAt x y earlier s t) :
    DiffersAt x y (before ++ earlier) (.node m (before ++ .child s :: after))
      (.node n (before ++ .child t :: after))

/-- Nothing but the entries tells two sets apart: not the flattened list nor what is asked of it,
whatever the identities by which children are told apart. -/
structure Indistinguishable (s t : ArtifactSet) : Prop where
  toList : s.toList = t.toList
  size : s.size = t.size
  isEmpty : s.isEmpty = t.isEmpty
  contains (a : Artifact) : s.contains a = t.contains a
  sameAs (u : ArtifactSet) : s.sameAs u = t.sameAs u ∧ u.sameAs s = u.sameAs t
  flatten {ι κ : Type} [DecidableEq ι] [DecidableEq κ] {identity : ArtifactSet → ι}
    {identity' : ArtifactSet → κ} (hs : Faithful identity s) (ht : Faithful identity' t) :
    s.flatten identity = t.flatten identity'

/-- All that can be asked of a set is asked of its flattened list. -/
lemma indistinguishable_of_toList {s t : ArtifactSet} (h : s.toList = t.toList) :
    Indistinguishable s t where
  toList := h
  size := by rw [size, size, h]
  isEmpty := by rw [isEmpty, isEmpty, h]
  contains a := by rw [contains, contains, h]
  sameAs u := by simp only [sameAs, h, and_self]
  flatten hs ht := by
    rw [flatten_of_faithful hs, flatten_of_faithful ht, ← toList_eq, ← toList_eq, h]

/-! ## The artifacts around a place -/

section Place

variable {x y earlier : List ArtifactEntry} {s t : ArtifactSet}

/-- Sets that differ at one place have the same artifacts on both sides of it. -/
lemma DiffersAt.exists_leaves (h : DiffersAt x y earlier s t) :
    ∃ right,
      s.leaves = ArtifactEntry.leavesOf earlier ++ ArtifactEntry.leavesOf x ++ right ∧
        t.leaves = ArtifactEntry.leavesOf earlier ++ ArtifactEntry.leavesOf y ++ right := by
  induction h with
  | here m n before after =>
    refine ⟨ArtifactEntry.leavesOf after, ?_, ?_⟩ <;>
      rw [leaves, ArtifactEntry.leavesOf_append, ArtifactEntry.leavesOf_append]
  | deeper m n before after _ ih =>
    obtain ⟨right, hs, ht⟩ := ih
    refine ⟨right ++ ArtifactEntry.leavesOf after, ?_, ?_⟩
    · simp only [leaves, ArtifactEntry.leavesOf_append, ArtifactEntry.leavesOf, hs,
        List.append_assoc]
    · simp only [leaves, ArtifactEntry.leavesOf_append, ArtifactEntry.leavesOf, ht,
        List.append_assoc]

/-- What stands at a place shows only by the artifacts that it adds to those before it. -/
lemma DiffersAt.indistinguishable (h : DiffersAt x y earlier s t)
    (same : (ArtifactEntry.leavesOf earlier ++ ArtifactEntry.leavesOf x).eraseDups =
      (ArtifactEntry.leavesOf earlier ++ ArtifactEntry.leavesOf y).eraseDups) :
    Indistinguishable s t := by
  obtain ⟨right, hs, ht⟩ := h.exists_leaves
  refine indistinguishable_of_toList ?_
  rw [toList_eq, toList_eq, hs, ht, ← eraseDups_append_eraseDups, same,
    eraseDups_append_eraseDups]

/-- Entries with the same artifacts, up to repetitions, can stand for each other anywhere. -/
lemma DiffersAt.indistinguishable_of_eraseDups (h : DiffersAt x y earlier s t)
    (same : (ArtifactEntry.leavesOf x).eraseDups = (ArtifactEntry.leavesOf y).eraseDups) :
    Indistinguishable s t := by
  refine h.indistinguishable ?_
  rw [← eraseDups_append_eraseDups, same, eraseDups_append_eraseDups]

/-- Entries whose artifacts all stand before the place can be left out. -/
lemma DiffersAt.indistinguishable_of_subset (h : DiffersAt [] y earlier s t)
    (there : ∀ a ∈ ArtifactEntry.leavesOf y, a ∈ ArtifactEntry.leavesOf earlier) :
    Indistinguishable s t := by
  refine h.indistinguishable ?_
  rw [eraseDups_append_of_subset there, ArtifactEntry.leavesOf, List.append_nil]

/-- Every part of the entries of a set, and of every set within it, is such a place. -/
lemma exists_differsAt {root u : ArtifactSet} (inside : u = root ∨ Within u root)
    {before after : List ArtifactEntry} (split : u.entries = before ++ x ++ after)
    (y : List ArtifactEntry) :
    ∃ earlier t, DiffersAt x y earlier root t ∧ before <:+ earlier := by
  have top : ∀ v : ArtifactSet, v.entries = before ++ x ++ after →
      ∃ earlier t, DiffersAt x y earlier v t ∧ before <:+ earlier := by
    rintro ⟨name, entries⟩ rfl
    exact ⟨before, _, .here name name before after, List.suffix_rfl⟩
  -- a place in a child is a place in the set with what stands around the child
  have outward : ∀ v w : ArtifactSet, .child v ∈ w.entries →
      (∃ earlier t, DiffersAt x y earlier v t ∧ before <:+ earlier) →
        ∃ earlier t, DiffersAt x y earlier w t ∧ before <:+ earlier := by
    rintro v ⟨name, entries⟩ hv ⟨earlier, t, h, suffix⟩
    obtain ⟨front, behind, rfl⟩ := List.append_of_mem hv
    exact ⟨front ++ earlier, _, .deeper name name front behind h,
      suffix.trans (List.suffix_append front earlier)⟩
  obtain rfl | within := inside
  · exact top u split
  · induction within with
    | child h => exact outward _ _ h (top _ split)
    | deeper h _ ih => exact outward _ _ h (ih split)

end Place

/-! ## Changes that do not show -/

lemma leavesOf_child (s : ArtifactSet) : ArtifactEntry.leavesOf [.child s] = s.leaves := by
  rw [ArtifactEntry.leavesOf, ArtifactEntry.leavesOf, List.append_nil]

/-- What is repeated was there before. -/
lemma leavesOf_subset_of_mem {e : ArtifactEntry} {earlier : List ArtifactEntry} (h : e ∈ earlier) :
    ∀ a ∈ ArtifactEntry.leavesOf [e], a ∈ ArtifactEntry.leavesOf earlier := by
  intro a ha
  obtain ⟨front, behind, rfl⟩ := List.append_of_mem h
  have one : e :: behind = [e] ++ behind := rfl
  rw [one, ArtifactEntry.leavesOf_append, ArtifactEntry.leavesOf_append]
  exact List.mem_append_right _ (List.mem_append_left _ ha)

/-- At every place of a set, at any depth, a child can be replaced by an equal one or by its own
entries, entries can be gathered in a child, and what stands before can be repeated: none of it
shows. -/
theorem nesting_unobservable :
    (∀ {s t a b : ArtifactSet} {earlier : List ArtifactEntry},
        DiffersAt [.child s] [.child t] earlier a b → s.sameAs t = true →
          Indistinguishable a b) ∧
      (∀ {s a b : ArtifactSet} {earlier : List ArtifactEntry},
        DiffersAt [.child s] s.entries earlier a b → Indistinguishable a b) ∧
      (∀ {run earlier : List ArtifactEntry} {name : Option Nat} {a b : ArtifactSet},
        DiffersAt run [.child (.node name run)] earlier a b → Indistinguishable a b) ∧
      (∀ {e : ArtifactEntry} {earlier : List ArtifactEntry} {a b : ArtifactSet},
        DiffersAt [] [e] earlier a b → e ∈ earlier → Indistinguishable a b) ∧
      ∀ root u : ArtifactSet, u = root ∨ Within u root →
        ∀ before x after : List ArtifactEntry, u.entries = before ++ x ++ after →
          ∀ y, ∃ earlier t, DiffersAt x y earlier root t ∧ before <:+ earlier := by
  refine ⟨?_, ?_, ?_, ?_, fun root u inside before x after split y =>
    exists_differsAt inside split y⟩
  · intro s t a b earlier h same
    refine h.indistinguishable_of_eraseDups ?_
    rw [leavesOf_child, leavesOf_child, ← toList_eq, ← toList_eq]
    exact sameAs_iff.mp same
  · intro s a b earlier h
    refine h.indistinguishable_of_eraseDups ?_
    rw [leavesOf_child, leaves_eq]
  · intro run earlier name a b h
    refine h.indistinguishable_of_eraseDups ?_
    rw [leavesOf_child, leaves]
  · intro e earlier a b h there
    exact h.indistinguishable_of_subset (leavesOf_subset_of_mem there)

/-- The shared pair with its entries in a child of their own. -/
def wrappedPair : ArtifactSet := .node (some 4) [.child sharedPair]

/-- In the child of `sharedTwice` that is around the pair, the pair can be replaced by what is equal
to it, its entries can take its place, all can be wrapped, and the pair can come once more. -/
theorem nesting_sharedTwice :
    (sharedPair.sameAs wrappedPair = true ∧
      Indistinguishable sharedTwice
        (.node (some 5) [.child sharedPair,
          .child (.node (some 6) [.artifact ⟨"b", "bin"⟩, .child wrappedPair]),
          .child sharedPair])) ∧
      Indistinguishable sharedTwice
        (.node (some 5) [.child sharedPair,
          .child (.node (some 6) (.artifact ⟨"b", "bin"⟩ :: sharedPair.entries)),
          .child sharedPair]) ∧
      Indistinguishable sharedTwice
        (.node (some 5) [.child sharedPair,
          .child (.node (some 6) [.child (.node (some 7) aroundPair.entries)]),
          .child sharedPair]) ∧
      Indistinguishable sharedTwice
        (.node (some 5) [.child sharedPair,
          .child (.node (some 6) [.artifact ⟨"b", "bin"⟩, .child sharedPair,
            .artifact ⟨"b", "bin"⟩]),
          .child sharedPair]) ∧
      ∃ earlier t, DiffersAt [] [.artifact ⟨"c", "bin"⟩] earlier sharedTwice t ∧
        [] <:+ earlier := by
  -- what differs in the set around the pair differs in the whole set
  have outward {x y earlier : List ArtifactEntry} {t : ArtifactSet}
      (h : DiffersAt x y earlier aroundPair t) :
      DiffersAt x y ([.child sharedPair] ++ earlier) sharedTwice
        (.node (some 5) [.child sharedPair, .child t, .child sharedPair]) :=
    .deeper (some 3) (some 5) [.child sharedPair] [.child sharedPair] h
  have same : sharedPair.sameAs wrappedPair = true := by decide
  refine ⟨⟨same, ?_⟩, ?_, ?_, ?_, ?_⟩
  · exact nesting_unobservable.1
      (outward (.here (some 2) (some 6) [.artifact ⟨"b", "bin"⟩] [])) same
  · exact nesting_unobservable.2.1
      (outward (.here (some 2) (some 6) [.artifact ⟨"b", "bin"⟩] []))
  · have wrapped : DiffersAt aroundPair.entries [.child (.node (some 7) aroundPair.entries)] []
        aroundPair (.node (some 6) [.child (.node (some 7) aroundPair.entries)]) :=
      .here (some 2) (some 6) [] []
    exact nesting_unobservable.2.2.1 (outward wrapped)
  · exact nesting_unobservable.2.2.2.1 (outward (.here (some 2) (some 6) aroundPair.entries []))
      (by decide)
  · exact nesting_unobservable.2.2.2.2 _ _ (.inl rfl) [] [] sharedTwice.entries rfl _

end ArtifactSet

end TargetAssembly
