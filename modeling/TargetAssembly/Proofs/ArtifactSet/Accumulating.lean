import TargetAssembly.ArtifactSet.Workbench
import TargetAssembly.Proofs.ArtifactSet.Flattening

/-!
# Builders gather, sets stay

A builder on the workbench is called again and again: artifacts are added one by one or many at
once, sets are added as children, and every now and then a set is built of what has been gathered.
`Calls` is one such call and `Run` a row of them.  `Calls.step` says once what a call does to the
workbench, `Run.entries` carries it over a row: the builder has the entries of all calls so far, in
their order, and what is kept under other names stays what it is.  `builds_accumulate` reads off
what each build gives and what none of the later calls changes.
-/

namespace TargetAssembly

namespace Workbench

/-! ## What is kept under a name -/

@[simp] lemma find_keep_self (w : Workbench) (name : String) (item : Item) :
    (w.keep name item).find name = .ok item := by
  simp only [find, keep, Keyed.lookup_set_self]

lemma find_keep_of_ne {name x : String} (other : x ≠ name) (w : Workbench) (item : Item) :
    (w.keep name item).find x = w.find x := by
  simp only [find, keep, Keyed.lookup_set_of_ne other]

@[simp] lemma next_keep (w : Workbench) (name : String) (item : Item) :
    (w.keep name item).next = w.next := rfl

@[simp] lemma find_renumbered (w : Workbench) (n : Nat) (name : String) :
    ({ w with next := n } : Workbench).find name = w.find name := rfl

/-! ## The numbers of new sets -/

section Numbers

variable (w : Workbench) (part : String)

mutual

/-- Stating an entry uses numbers up, and gives none back. -/
lemma le_of_entry {n m : Nat} {made : ArtifactEntry} :
    ∀ e : StatedEntry, w.entry part n e = .ok (made, m) → n ≤ m
  | .artifact a, h => by
    cases h
    exact Nat.le_refl n
  | .named name, h => by
    simp only [entry] at h
    cases found : w.set name part <;> simp [found, bind, Except.bind, pure, Except.pure] at h
    exact Nat.le_of_eq h.2
  | .nested entries, h => by
    simp only [entry] at h
    cases inner : w.entriesFrom part n entries with
    | error e => simp [inner, bind, Except.bind] at h
    | ok r =>
      obtain ⟨all, k⟩ := r
      simp only [inner, bind, Except.bind, pure, Except.pure, Except.ok.injEq, Prod.mk.injEq] at h
      have := le_of_entriesFrom entries inner
      omega
  | .unfit m, h => by cases h

lemma le_of_entriesFrom {n m : Nat} {made : List ArtifactEntry} :
    ∀ es : List StatedEntry, w.entriesFrom part n es = .ok (made, m) → n ≤ m
  | [], h => by
    cases h
    exact Nat.le_refl n
  | e :: rest, h => by
    simp only [entriesFrom] at h
    cases first : w.entry part n e with
    | error f => simp [first, bind, Except.bind] at h
    | ok r =>
      obtain ⟨one, k⟩ := r
      cases others : w.entriesFrom part k rest with
      | error f => simp [first, others, bind, Except.bind] at h
      | ok r =>
        obtain ⟨all, l⟩ := r
        simp only [first, others, bind, Except.bind, pure, Except.pure, Except.ok.injEq,
          Prod.mk.injEq] at h
        have := le_of_entry e first
        have := le_of_entriesFrom rest others
        omega

end

end Numbers

/-- Artifacts are stated as they are, and use no numbers up. -/
lemma entriesFrom_artifacts (w : Workbench) (part : String) (n : Nat) (l : List Artifact) :
    w.entriesFrom part n (l.map .artifact) = .ok (l.map .artifact, n) := by
  induction l with
  | nil => rfl
  | cons a l ih =>
    simp only [List.map_cons, entriesFrom, entry, bind, Except.bind, ih, pure, Except.pure]

/-! ## Operations on a builder -/

section Builder

variable {w : Workbench} {b : String} {gathered : ArtifactSetBuilder}
  (holds : w.find b = .ok (.builder gathered))

include holds

lemma builder_of_find (part : String) : w.builder b part = .ok gathered := by
  rw [builder, holds]
  rfl

lemma update_of_find (part : String) (more : ArtifactSetBuilder) :
    w.update b part more = .ok (w.keep b (.builder more)) := by
  rw [update, holds]
  rfl

lemma add_of_find (a : Artifact) : w.add b (.ok a) = .ok (w.keep b (.builder (gathered.add a))) := by
  simp only [add, builder_of_find holds, Except.mapError, bind, Except.bind,
    update_of_find holds]

lemma addAll_of_find (l : List Artifact) :
    w.addAll b (l.map .artifact) =
      .ok (w.keep b (.builder (gathered.addAll (l.map .artifact)))) := by
  simp only [addAll, builder_of_find holds, entriesFrom_artifacts, bind, Except.bind,
    update_of_find holds]

lemma addAllOf_of_find {source : String} {s : ArtifactSet} (found : w.find source = .ok (.set s)) :
    w.addAllOf b source =
      .ok (w.keep b (.builder (gathered.addAll (s.toList.map .artifact)))) := by
  simp only [addAllOf, builder_of_find holds, artifacts, found, bind, Except.bind, pure,
    Except.pure, update_of_find holds]

lemma addTransitive_of_find {stated : StatedEntry} {s : ArtifactSet} {n : Nat}
    (found : w.entry "is_empty" w.next stated = .ok (.child s, n)) :
    w.addTransitive b stated =
      .ok (if s.isEmpty then { w with next := n }
        else { w with next := n }.keep b (.builder (gathered.addTransitive s))) := by
  have renumbered : ({ w with next := n } : Workbench).find b = .ok (.builder gathered) := holds
  cases none : s.isEmpty <;>
    simp only [addTransitive, builder_of_find holds, found, none, bind, Except.bind, pure,
      Except.pure, update_of_find renumbered, if_true, if_false, Bool.false_eq_true]

lemma build_of_find (into : String) :
    w.build b into =
      if gathered.entries.isEmpty then .ok (w.keep into (.set .empty), .empty)
      else .ok ({ w with next := w.next + 1 }.keep into (.set (.node (some w.next) gathered.entries)),
        .node (some w.next) gathered.entries) := by
  cases none : gathered.entries.isEmpty <;>
    simp [build, builder_of_find holds, ArtifactSetBuilder.build, none, bind, Except.bind, pure,
      Except.pure, ArtifactSet.ofEntries, ArtifactSet.entries]

end Builder

/-! ## Calls -/

/-- A call of a builder, with what goes into it or what comes out of it. -/
inductive Call where
  /-- An artifact is added. -/
  | add (a : Artifact)
  /-- Artifacts are added, one after the other. -/
  | addAll (artifacts : List Artifact)
  /-- A set is added as a child. -/
  | addTransitive (child : ArtifactSet)
  /-- A set is built, and kept under a name. -/
  | build (into : String) (made : ArtifactSet)

namespace Call

/-- The artifacts that a call adds. -/
def added : Call → List Artifact
  | add a => [a]
  | addAll artifacts => artifacts
  | addTransitive child => child.toList
  | build _ _ => []

/-- The entries that the builder has after a call and had not before. -/
def entries : Call → List ArtifactEntry
  | add a => [.artifact a]
  | addAll artifacts => artifacts.map .artifact
  | addTransitive child => if child.isEmpty then [] else [.child child]
  | build _ _ => []

/-- The name under which a call keeps a set, if it does. -/
def target? : Call → Option String
  | build into _ => some into
  | _ => none

end Call

/-- A call of the builder under the name `b` takes one workbench to another.  A set is built into
another name than that of the builder. -/
inductive Calls (b : String) : Workbench → Call → Workbench → Prop
  | add {w w' : Workbench} {a : Artifact} (h : w.add b (.ok a) = .ok w') : Calls b w (.add a) w'
  | addAll {w w' : Workbench} {l : List Artifact} (h : w.addAll b (l.map .artifact) = .ok w') :
    Calls b w (.addAll l) w'
  | addAllOf {w w' : Workbench} {source : String} {s : ArtifactSet}
    (found : w.find source = .ok (.set s)) (h : w.addAllOf b source = .ok w') :
    Calls b w (.addAll s.toList) w'
  | addTransitive {w w' : Workbench} {stated : StatedEntry} {s : ArtifactSet} {n : Nat}
    (found : w.entry "is_empty" w.next stated = .ok (.child s, n))
    (h : w.addTransitive b stated = .ok w') : Calls b w (.addTransitive s) w'
  | build {w w' : Workbench} {into : String} {s : ArtifactSet} (apart : into ≠ b)
    (h : w.build b into = .ok (w', s)) : Calls b w (.build into s) w'

/-- What a call does to a workbench, which holds the builder `gathered` under the name `b`. -/
structure Step (b : String) (gathered : ArtifactSetBuilder) (w : Workbench) (c : Call)
    (w' : Workbench) : Prop where
  builder : w'.find b = .ok (.builder ⟨gathered.entries ++ c.entries⟩)
  next : w.next ≤ w'.next
  others : ∀ x, x ≠ b → c.target? ≠ some x → w'.find x = w.find x

section Step

variable {w w' : Workbench} {b : String} {gathered : ArtifactSetBuilder} {c : Call}

/-- Keeping the builder with more entries is a step of a call that adds them. -/
lemma step_keep (w : Workbench) {n : Nat} (next : w.next ≤ n) :
    Step b gathered w c ({ w with next := n }.keep b (.builder ⟨gathered.entries ++ c.entries⟩)) where
  builder := find_keep_self _ _ _
  next := next
  others _ other _ := find_keep_of_ne other _ _

lemma Calls.step (call : Calls b w c w') (holds : w.find b = .ok (.builder gathered)) :
    Step b gathered w c w' := by
  cases call with
  | add h =>
    cases h.symm.trans (add_of_find holds _)
    exact step_keep w (Nat.le_refl _)
  | addAll h =>
    cases h.symm.trans (addAll_of_find holds _)
    exact step_keep w (Nat.le_refl _)
  | addAllOf found h =>
    cases h.symm.trans (addAllOf_of_find holds found)
    exact step_keep w (Nat.le_refl _)
  | @addTransitive _ stated s n found h =>
    have next : w.next ≤ n := le_of_entry w "is_empty" stated found
    have made := h.symm.trans (addTransitive_of_find holds found)
    cases none : s.isEmpty with
    | true =>
      rw [none, if_pos rfl] at made
      cases made
      refine ⟨?_, next, fun x _ _ => rfl⟩
      rw [Call.entries, none, if_pos rfl, List.append_nil]
      exact holds
    | false =>
      rw [none, if_neg Bool.false_ne_true, ArtifactSetBuilder.addTransitive, none,
        if_neg Bool.false_ne_true] at made
      cases made
      have kept : Step b gathered w (.addTransitive s) _ := step_keep w next
      rwa [Call.entries, none, if_neg Bool.false_ne_true] at kept
  | @build _ into s apart h =>
    have made := h.symm.trans (build_of_find holds into)
    have builder : ∀ v : Workbench, v.find b = .ok (.builder gathered) →
        v.find b = .ok (.builder ⟨gathered.entries ++ (Call.build into s).entries⟩) := by
      intro v hv
      rwa [Call.entries, List.append_nil]
    split_ifs at made
    · cases made
      refine ⟨builder _ ?_, Nat.le_refl _, fun x _ other => ?_⟩
      · rw [find_keep_of_ne apart.symm, holds]
      · exact find_keep_of_ne (fun e => other (congrArg some e.symm)) _ _
    · cases made
      refine ⟨builder _ ?_, Nat.le_succ _, fun x _ other => ?_⟩
      · rw [find_keep_of_ne apart.symm]
        exact holds
      · exact find_keep_of_ne (fun e => other (congrArg some e.symm)) _ _

/-- What is built has the entries that were gathered, and is the empty set that all share just if
there are none. -/
lemma Calls.built {into : String} {s : ArtifactSet} (call : Calls b w (.build into s) w')
    (holds : w.find b = .ok (.builder gathered)) (numbered : 0 < w.next) :
    s.entries = gathered.entries ∧ (s.isShared = true ↔ gathered.entries = []) ∧ into ≠ b ∧
      w'.find into = .ok (.set s) := by
  cases call with
  | build apart h =>
    have made := h.symm.trans (build_of_find holds into)
    split_ifs at made with none
    · cases made
      rw [List.isEmpty_iff] at none
      exact ⟨none.symm, by simp [none, ArtifactSet.isShared], apart, find_keep_self _ _ _⟩
    · cases made
      rw [List.isEmpty_iff] at none
      refine ⟨rfl, ?_, apart, find_keep_self _ _ _⟩
      have own : ArtifactSet.node (some w.next) gathered.entries ≠ .empty := by
        intro e
        injection e with name
        exact absurd (Option.some.inj name) (Nat.ne_of_gt numbered)
      simp [ArtifactSet.isShared, own, none]

end Step

/-! ## Rows of calls -/

/-- A row of calls of the builder under the name `b`. -/
inductive Run (b : String) : Workbench → List Call → Workbench → Prop
  | nil (w : Workbench) : Run b w [] w
  | cons {w v w' : Workbench} {c : Call} {calls : List Call} (first : Calls b w c v)
    (rest : Run b v calls w') : Run b w (c :: calls) w'

section Run

variable {w w' : Workbench} {b : String} {gathered : ArtifactSetBuilder} {calls : List Call}

lemma Run.split {earlier later : List Call} (run : Run b w (earlier ++ later) w') :
    ∃ u, Run b w earlier u ∧ Run b u later w' := by
  induction earlier generalizing w with
  | nil => exact ⟨w, .nil w, run⟩
  | cons c earlier ih =>
    cases run with
    | cons first rest =>
      obtain ⟨u, before, after⟩ := ih rest
      exact ⟨u, .cons first before, after⟩

/-- After a row of calls the builder has the entries of all of them, and all that is kept under
other names stays unless a set was built into its name. -/
lemma Run.entries (run : Run b w calls w') (holds : w.find b = .ok (.builder gathered)) :
    w'.find b = .ok (.builder ⟨gathered.entries ++ calls.flatMap Call.entries⟩) ∧
      w.next ≤ w'.next ∧
      ∀ x, x ≠ b → (∀ s, .build x s ∉ calls) → w'.find x = w.find x := by
  induction run generalizing gathered with
  | nil w => exact ⟨by simpa using holds, Nat.le_refl _, fun _ _ _ => rfl⟩
  | @cons _ _ _ c _ first _ ih =>
    have step := first.step holds
    obtain ⟨builder, next, others⟩ := ih step.builder
    refine ⟨?_, Nat.le_trans step.next next, fun x other none => ?_⟩
    · rw [builder, List.flatMap_cons, List.append_assoc]
    · have target : c.target? ≠ some x := by
        -- only a build has a name to keep a set under
        cases c with
        | build into s => exact fun e => none s (Option.some.inj e ▸ List.mem_cons_self)
        | _ => exact nofun
      rw [others x other fun s hs => none s (List.mem_cons_of_mem _ hs), step.others x other target]

/-- The entries of a call have the artifacts that it adds. -/
lemma Call.eraseDups_entries (c : Call) :
    (ArtifactEntry.leavesOf c.entries).eraseDups = c.added.eraseDups := by
  cases c with
  | add a => rfl
  | addAll l => rw [entries, ArtifactEntry.leavesOf_map_artifact, added]
  | addTransitive s =>
    rw [entries, added, ArtifactSet.toList_eq, eraseDups_eq_self (nodup_eraseDups s.leaves)]
    split_ifs with none
    · rw [ArtifactSet.isEmpty_iff.mp none, ArtifactEntry.leavesOf]
    · simp only [ArtifactEntry.leavesOf, List.append_nil]
  | build into s => rfl

/-- A call adds entries just if it adds artifacts. -/
lemma Call.entries_eq_nil_iff (c : Call) : c.entries = [] ↔ c.added = [] := by
  cases c with
  | addTransitive s =>
    rw [entries, added, ← List.isEmpty_iff (l := s.toList)]
    change _ ↔ s.isEmpty = true
    cases s.isEmpty <;> simp
  | _ => simp [entries, added]

lemma eraseDups_entries (calls : List Call) :
    (ArtifactEntry.leavesOf (calls.flatMap Call.entries)).eraseDups =
      (calls.flatMap Call.added).eraseDups := by
  induction calls with
  | nil => rfl
  | cons c calls ih =>
    rw [List.flatMap_cons, List.flatMap_cons, ArtifactEntry.leavesOf_append,
      ← eraseDups_append_eraseDups, c.eraseDups_entries, ih, eraseDups_append_eraseDups]

lemma entries_eq_nil_iff (calls : List Call) :
    calls.flatMap Call.entries = [] ↔ calls.flatMap Call.added = [] := by
  simp only [List.flatMap_eq_nil_iff, Call.entries_eq_nil_iff]

/-- Each set that is built flattens to the artifacts added before, in the order of the calls and
without repetitions, and is the empty set that all share just if there are none.  Building leaves
the builder as it is.  From any moment on nothing that is kept under a name changes, unless a set is
built into that name, and the builder keeps the entries that it has.  As long as a child is stated
that is a set, no call fails. -/
theorem builds_accumulate (fresh : w.find b = .ok (.builder {})) (numbered : 0 < w.next)
    (run : Run b w calls w') :
    (∀ earlier into s later, calls = earlier ++ .build into s :: later →
        s.toList = (earlier.flatMap Call.added).eraseDups ∧
          (s.isShared = true ↔ earlier.flatMap Call.added = []) ∧
          ∃ u v, Run b w earlier u ∧ Calls b u (.build into s) v ∧ Run b v later w' ∧
            v.find b = u.find b ∧ v.find into = .ok (.set s) ∧
            ((∀ t, .build into t ∉ later) → w'.find into = .ok (.set s))) ∧
      (∀ earlier later, calls = earlier ++ later →
        ∃ u, Run b w earlier u ∧ Run b u later w' ∧
          (∀ x item, x ≠ b → u.find x = .ok item → (∀ s, .build x s ∉ later) →
            w'.find x = .ok item) ∧
          ∃ old new, u.find b = .ok (.builder old) ∧ w'.find b = .ok (.builder new) ∧
            old.entries <+: new.entries) ∧
      (∀ a, ∃ v, w'.add b (.ok a) = .ok v) ∧
      (∀ l : List Artifact, ∃ v, w'.addAll b (l.map .artifact) = .ok v) ∧
      (∀ stated s n, w'.entry "is_empty" w'.next stated = .ok (.child s, n) →
        ∃ v, w'.addTransitive b stated = .ok v) ∧
      ∀ into, ∃ v s, w'.build b into = .ok (v, s) := by
  obtain ⟨builder, -, -⟩ := run.entries fresh
  refine ⟨?_, ?_, fun a => ⟨_, add_of_find builder a⟩, fun l => ⟨_, addAll_of_find builder l⟩,
    fun stated s n found => ⟨_, addTransitive_of_find builder found⟩, fun into => ?_⟩
  · rintro earlier into s later rfl
    obtain ⟨u, before, rest⟩ := run.split
    cases rest with
    | cons call after =>
      obtain ⟨gathered, next, -⟩ := before.entries fresh
      obtain ⟨same, shared, apart, kept⟩ := call.built gathered (Nat.lt_of_lt_of_le numbered next)
      have step := call.step gathered
      obtain ⟨-, -, others⟩ := after.entries step.builder
      rw [List.nil_append] at same shared gathered step
      refine ⟨?_, ?_, u, _, before, call, after, ?_, kept, fun none => ?_⟩
      · rw [ArtifactSet.toList_eq, ArtifactSet.leaves_eq, same, eraseDups_entries]
      · rw [shared, entries_eq_nil_iff]
      · rw [step.builder, gathered, Call.entries, List.append_nil]
      · rw [others into apart none, kept]
  · rintro earlier later rfl
    obtain ⟨u, before, after⟩ := run.split
    obtain ⟨gathered, -, -⟩ := before.entries fresh
    obtain ⟨grown, -, others⟩ := after.entries gathered
    refine ⟨u, before, after, fun x item other found none => ?_, _, _, gathered, grown,
      List.prefix_append _ _⟩
    rw [others x other none, found]
  · rw [build_of_find builder]
    split_ifs <;> exact ⟨_, _, rfl⟩

end Run

/-- A workbench with a fresh builder. -/
def withBuilder : Workbench := ({} : Workbench).startBuilder "b"

/-- A set of one artifact, the first that is made on a workbench. -/
def single : ArtifactSet := .node (some 1) [.artifact ⟨"a", "bin"⟩]

/-- The set of one artifact as a child before that artifact and another. -/
def double : ArtifactSet :=
  .node (some 2) [.artifact ⟨"a", "bin"⟩, .child single, .artifact ⟨"a", "bin"⟩,
    .artifact ⟨"c", "bin"⟩]

/-- Sets are built of nothing, of one artifact, and once more after the latter was added to its own
builder. -/
def interleaved : List Call :=
  [.build "none" .empty, .addTransitive .empty, .add ⟨"a", "bin"⟩, .build "single" single,
    .addTransitive single, .addAll [⟨"a", "bin"⟩, ⟨"c", "bin"⟩], .build "double" double]

theorem builds_interleaved :
    withBuilder.find "b" = .ok (.builder {}) ∧ 0 < withBuilder.next ∧
      ∃ w, Run "b" withBuilder interleaved w ∧
        ArtifactSet.empty.toList = [] ∧ single.toList = [⟨"a", "bin"⟩] ∧
        double.toList = [⟨"a", "bin"⟩, ⟨"c", "bin"⟩] ∧
        w.find "single" = .ok (.set single) := by
  have fresh : withBuilder.find "b" = .ok (.builder {}) := find_keep_self _ _ _
  have numbered : 0 < withBuilder.next := by decide
  have run : ∃ w, Run "b" withBuilder interleaved w :=
    ⟨_, .cons (.build (by decide) rfl) <|
      .cons (@Calls.addTransitive "b" _ _ (.named "none") _ _ rfl rfl) <|
      .cons (.add rfl) <| .cons (.build (by decide) rfl) <|
      .cons (@Calls.addTransitive "b" _ _ (.named "single") _ _ rfl rfl) <|
      .cons (.addAll rfl) <| .cons (.build (by decide) rfl) <| .nil _⟩
  obtain ⟨w, run⟩ := run
  obtain ⟨builds, -⟩ := builds_accumulate fresh numbered run
  refine ⟨fresh, numbered, w, run, ?_, ?_, ?_, ?_⟩
  · exact (builds [] "none" _ (interleaved.drop 1) rfl).1.trans rfl
  · exact (builds (interleaved.take 3) "single" _ (interleaved.drop 4) rfl).1.trans rfl
  · exact (builds (interleaved.take 6) "double" _ [] rfl).1.trans (by decide)
  · obtain ⟨-, -, u, v, -, -, -, -, -, kept⟩ :=
      builds (interleaved.take 3) "single" _ (interleaved.drop 4) rfl
    exact kept (by simp [interleaved])

end Workbench

end TargetAssembly
