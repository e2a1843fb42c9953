import Mathlib.Tactic.Lemma
import Mathlib.Tactic.SplitIfs
import TargetAssembly.FileTree

/-!
# What writing a file changes

Making directories only adds nodes, and writing a file changes one node, which is a file or new.  A
path that leads somewhere before leads there afterwards, since following a path asks only which
nodes are there and which of them are directories.  `writeDeep_ok` and `writeDeep_error` say what
both come to: after success the path leads to a file with the bytes that were written, and no other
file has changed; after a failure no file has changed at all.
-/

namespace TargetAssembly.FileTree

/-! ## Nodes -/

/-- The bytes of the regular file at a location, if there is one. -/
def file? (t : FileTree) (l : Location) : Option (List UInt8) :=
  match t.node? l with
  | some (.file bytes) => some bytes
  | _ => none

lemma file?_eq_some_iff {t : FileTree} {l : Location} {bytes : List UInt8} :
    t.file? l = some bytes ↔ t.node? l = some (.file bytes) := by
  unfold file?
  split
  case h_1 old here => simp [here]
  case h_2 other => exact iff_of_false nofun (other bytes)

lemma node?_put_self (t : FileTree) {l : Location} (below : l ≠ []) (n : FileNode) :
    (t.put l n).node? l = some n := by
  have named : l.isEmpty = false := by simpa using below
  simp [node?, put, named, Keyed.lookup_set_self]

lemma node?_put_of_ne (t : FileTree) {l m : Location} (other : m ≠ l) (n : FileNode) :
    (t.put l n).node? m = t.node? m := by
  simp [node?, put, Keyed.lookup_set_of_ne other]

lemma node?_top (t : FileTree) : t.node? [] = some .directory := rfl

lemma ne_top_of_node? {t : FileTree} {l : Location} (h : t.node? l ≠ some .directory) : l ≠ [] := by
  rintro rfl
  exact h t.node?_top

lemma file?_put_of_ne (t : FileTree) {l m : Location} (other : m ≠ l) (n : FileNode) :
    (t.put l n).file? m = t.file? m := by
  rw [file?, file?, node?_put_of_ne t other]

/-- A new directory is no file, and there was none in its place. -/
lemma file?_put_directory {t : FileTree} {l : Location} (new : t.node? l = none) (m : Location) :
    (t.put l .directory).file? m = t.file? m := by
  by_cases same : m = l
  · subst same
    have below : m ≠ [] := ne_top_of_node? (t := t) (by simp [new])
    simp [file?, node?_put_self t below, new]
  · exact file?_put_of_ne t same .directory

/-! ## Trees in which paths lead to the same places -/

/-- What is there in one tree is there in the other, and directories are directories. -/
structure Keeps (t u : FileTree) : Prop where
  directory : ∀ l, t.node? l = some .directory → u.node? l = some .directory
  present : ∀ l, (t.node? l).isSome → (u.node? l).isSome

namespace Keeps

lemma refl (t : FileTree) : t.Keeps t := ⟨fun _ h => h, fun _ h => h⟩

lemma trans {t u v : FileTree} (h : t.Keeps u) (k : u.Keeps v) : t.Keeps v :=
  ⟨fun l hl => k.directory l (h.directory l hl), fun l hl => k.present l (h.present l hl)⟩

/-- A node that is put where no directory is. -/
lemma put {t : FileTree} {l : Location} (free : t.node? l ≠ some .directory) (n : FileNode) :
    t.Keeps (t.put l n) := by
  have below := ne_top_of_node? free
  constructor
  · intro m hm
    have other : m ≠ l := by
      rintro rfl
      exact free hm
    rwa [node?_put_of_ne t other]
  · intro m hm
    by_cases same : m = l
    · subst same
      rw [node?_put_self t below]
      rfl
    · rwa [node?_put_of_ne t same]

/-- Names that can be followed lead to the same location. -/
lemma follow {t u : FileTree} (keeps : t.Keeps u) {l m : Location} {names : List String}
    (h : t.follow l names = .ok m) : u.follow l names = .ok m := by
  induction names generalizing l with
  | nil => exact h
  | cons name names ih =>
    rw [FileTree.follow] at h ⊢
    cases here : t.node? l with
    | none =>
      rw [here] at h
      cases h
    | some n =>
      cases n with
      | file bytes =>
        rw [here] at h
        cases h
      | directory =>
        rw [here] at h
        rw [keeps.directory l here]
        dsimp only at h ⊢
        split_ifs at h ⊢
        · exact ih h
        · cases next : t.node? (l ++ [name]) with
          | none =>
            rw [next] at h
            cases h
          | some n =>
            have present := keeps.present (l ++ [name]) (by rw [next]; rfl)
            obtain ⟨n', next'⟩ := Option.isSome_iff_exists.mp present
            rw [next] at h
            rw [next']
            exact ih h

end Keeps

/-! ## Where a path leads -/

/-- The location that a path leads to. -/
def Target.location : Target → Location
  | .existing l _ => l
  | .fresh l => l

/-- What stands at a location, as the target of a path. -/
def targetAt (t : FileTree) (l : Location) : Target :=
  match t.node? l with
  | some n => .existing l n
  | none => .fresh l

lemma targetAt_of_some {t : FileTree} {l : Location} {n : FileNode} (h : t.node? l = some n) :
    t.targetAt l = .existing l n := by
  rw [targetAt, h]

lemma targetAt_of_none {t : FileTree} {l : Location} (h : t.node? l = none) :
    t.targetAt l = .fresh l := by
  rw [targetAt, h]

/-- A path leads to a location: its names but the last lead to a directory, and the last name is
looked up there. -/
inductive Leads (t : FileTree) : List String → Location → Prop where
  | top : Leads t [] []
  | up {names : List String} {l : Location} (way : t.follow [] names = .ok l)
      (directory : t.node? l = some .directory) (present : (t.node? l.dropLast).isSome) :
      Leads t (names ++ [".."]) l.dropLast
  | name {names : List String} {name : String} {l : Location}
      (way : t.follow [] names = .ok l) (directory : t.node? l = some .directory)
      (proper : name ≠ "..") (short : ¬ maxNameBytes < name.utf8ByteSize) :
      Leads t (names ++ [name]) (l ++ [name])

lemma Leads.keep {t u : FileTree} (keeps : t.Keeps u) {names : List String} {l : Location}
    (h : t.Leads names l) : u.Leads names l := by
  cases h with
  | top => exact .top
  | up way directory present =>
    exact .up (keeps.follow way) (keeps.directory _ directory) (keeps.present _ present)
  | name way directory proper short =>
    exact .name (keeps.follow way) (keeps.directory _ directory) proper short

/-- The text of a path is one that the system takes. -/
structure Taken (p : FilePath) : Prop where
  whole : p.text.toList.contains '\x00' = false
  short : ¬ maxPathBytes < p.text.utf8ByteSize

/-- Where a last name leads to from a location. -/
def targetFrom (t : FileTree) (l : Location) (name : String) : Except FileFault Target :=
  match t.node? l with
  | some .directory =>
    if name = ".." then
      match t.node? l.dropLast with
      | some n => .ok (.existing l.dropLast n)
      | none => .error .notFound
    else if maxNameBytes < name.utf8ByteSize then .error .tooLong
    else .ok (t.targetAt (l ++ [name]))
  | _ => .error .notDirectory

section Target

variable {t : FileTree} {p : FilePath}

lemma taken_of_target {r : Target} (h : t.target p = .ok r) : Taken p := by
  unfold target at h
  cases whole : p.text.toList.contains '\x00' with
  | true =>
    rw [if_pos whole] at h
    cases h
  | false =>
    refine ⟨whole, fun long => ?_⟩
    rw [if_neg (by rw [whole]; exact Bool.false_ne_true), if_pos long] at h
    cases h

lemma target_top (taken : Taken p) (top : p.parts = []) :
    t.target p = .ok (t.targetAt []) := by
  simp only [target, taken.whole, if_neg taken.short, top]
  rfl

lemma target_concat (taken : Taken p) {names : List String} {name : String}
    (parts : p.parts = names ++ [name]) :
    t.target p = t.follow [] names >>= fun l => t.targetFrom l name := by
  have last : p.parts.getLast? = some name := by rw [parts, List.getLast?_concat]
  have first : p.parts.dropLast = names := by rw [parts, List.dropLast_concat]
  simp only [target, taken.whole, if_neg taken.short, last, first]
  refine congrArg (t.follow [] names >>= ·) (funext fun l => ?_)
  rw [targetFrom, targetAt]
  cases t.node? l with
  | none => rfl
  | some n =>
    cases n with
    | file bytes => rfl
    | directory =>
      by_cases up : name = ".."
      · exact (if_pos up).trans (if_pos up).symm
      · rw [if_neg up, if_neg up]
        cases t.node? (l ++ [name]) <;> rfl

lemma exists_leads_of_targetFrom {names : List String} {name : String} {l : Location} {r : Target}
    (way : t.follow [] names = .ok l) (h : t.targetFrom l name = .ok r) :
    ∃ m, t.Leads (names ++ [name]) m ∧ r = t.targetAt m := by
  unfold targetFrom at h
  split at h
  case h_1 directory =>
    by_cases up : name = ".."
    · subst up
      rw [if_pos rfl] at h
      cases here : t.node? l.dropLast with
      | none =>
        rw [here] at h
        cases h
      | some n =>
        rw [here] at h
        refine ⟨l.dropLast, .up way directory (by rw [here]; rfl), ?_⟩
        rw [targetAt_of_some here]
        exact (Except.ok.inj h).symm
    · rw [if_neg up] at h
      by_cases long : maxNameBytes < name.utf8ByteSize
      · rw [if_pos long] at h
        cases h
      · rw [if_neg long] at h
        exact ⟨l ++ [name], .name way directory up long, (Except.ok.inj h).symm⟩
  case h_2 => cases h

/-- What a path leads to depends on where it leads and on what stands there. -/
lemma target_eq_ok_iff {r : Target} :
    t.target p = .ok r ↔ Taken p ∧ ∃ l, t.Leads p.parts l ∧ r = t.targetAt l := by
  constructor
  · intro h
    have taken := taken_of_target h
    refine ⟨taken, ?_⟩
    obtain parts | ⟨names, name, parts⟩ := List.eq_nil_or_concat p.parts
    · rw [target_top taken parts] at h
      rw [parts]
      exact ⟨[], .top, (Except.ok.inj h).symm⟩
    · rw [List.concat_eq_append] at parts
      rw [target_concat taken parts] at h
      rw [parts]
      cases way : t.follow [] names with
      | error e =>
        rw [way] at h
        cases h
      | ok l =>
        rw [way] at h
        exact exists_leads_of_targetFrom way h
  · rintro ⟨taken, l, leads, rfl⟩
    generalize parts : p.parts = names at leads
    cases leads with
    | top => exact target_top taken parts
    | up way directory present =>
      obtain ⟨n, here⟩ := Option.isSome_iff_exists.mp present
      rw [target_concat taken parts, way, targetAt_of_some here]
      simp only [bind, Except.bind, targetFrom, directory, here, if_true]
    | name way directory proper short =>
      rw [target_concat taken parts, way]
      simp only [bind, Except.bind, targetFrom, directory, if_neg proper, if_neg short]

end Target

lemma location_targetAt (t : FileTree) (l : Location) : (t.targetAt l).location = l := by
  unfold targetAt
  split <;> rfl

/-- A path leads to the same location in a tree that keeps what was there. -/
lemma Keeps.target {t u : FileTree} (keeps : t.Keeps u) {p : FilePath} {r : Target}
    (h : t.target p = .ok r) : u.target p = .ok (u.targetAt r.location) := by
  obtain ⟨taken, l, leads, rfl⟩ := target_eq_ok_iff.mp h
  rw [location_targetAt]
  exact target_eq_ok_iff.mpr ⟨taken, l, leads.keep keeps, rfl⟩

/-- What a path leads to is what stands there. -/
lemma node?_of_target {t : FileTree} {p : FilePath} {l : Location} {n : FileNode}
    (h : t.target p = .ok (.existing l n)) : t.node? l = some n := by
  obtain ⟨-, m, -, found⟩ := target_eq_ok_iff.mp h
  cases here : t.node? m with
  | none =>
    rw [targetAt_of_none here] at found
    cases found
  | some n' =>
    rw [targetAt_of_some here] at found
    cases found
    exact here

lemma read_of_target {t : FileTree} {p : FilePath} {l : Location} {bytes : List UInt8}
    (found : t.target p = .ok (.existing l (.file bytes))) : t.read p = .ok bytes := by
  rw [read, found]

lemma node?_of_fresh {t : FileTree} {p : FilePath} {l : Location}
    (h : t.target p = .ok (.fresh l)) : t.node? l = none := by
  obtain ⟨-, m, -, found⟩ := target_eq_ok_iff.mp h
  cases here : t.node? m with
  | some n =>
    rw [targetAt_of_some here] at found
    cases found
  | none =>
    rw [targetAt_of_none here] at found
    cases found
    exact here

/-! ## Making directories -/

/-- Directories may have been added, and nothing else has changed. -/
structure Adds (t u : FileTree) : Prop extends t.Keeps u where
  files : ∀ l, u.file? l = t.file? l

namespace Adds

lemma refl (t : FileTree) : t.Adds t := ⟨.refl t, fun _ => rfl⟩

lemma trans {t u v : FileTree} (h : t.Adds u) (k : u.Adds v) : t.Adds v :=
  ⟨h.toKeeps.trans k.toKeeps, fun l => (k.files l).trans (h.files l)⟩

end Adds

lemma adds_makeDirectory {t u : FileTree} {p : FilePath} (h : t.makeDirectory p = .ok u) :
    t.Adds u := by
  unfold makeDirectory at h
  split at h
  case h_1 l fresh =>
    have free := node?_of_fresh fresh
    cases h
    exact ⟨.put (by rw [free]; exact nofun) .directory, file?_put_directory free⟩
  case h_2 => cases h
  case h_3 => cases h

/-- Whether or not all directories could be made, nothing but directories was added. -/
lemma adds_makeDirectories (t : FileTree) (namesUp : List String) :
    t.Adds (t.makeDirectories namesUp).1 := by
  induction namesUp generalizing t with
  | nil => exact .refl t
  | cons name above ih =>
    rw [makeDirectories]
    cases once : t.makeDirectory ⟨above.reverse ++ [name]⟩ with
    | ok u => exact adds_makeDirectory once
    | error fault =>
      cases fault with
      | notFound =>
        have up := ih t
        cases made : t.makeDirectories above with
        | mk u outcome =>
          rw [made] at up
          cases outcome with
          | error e => exact up
          | ok done =>
            cases again : u.makeDirectory ⟨above.reverse ++ [name]⟩ with
            | ok v =>
              simp only [again]
              exact up.trans (adds_makeDirectory again)
            | error fault =>
              simp only [again]
              exact up
      | _ => exact .refl t

/-! ## Writing -/

lemma write_cases (t : FileTree) (p : FilePath) (bytes : List UInt8) :
    (∃ l, t.target p = .ok (t.targetAt l) ∧ t.node? l ≠ some .directory ∧
        t.write p bytes = (t.put l (.file bytes), .ok ())) ∨
      ∃ e, t.write p bytes = (t, .error e) := by
  rw [write]
  cases found : t.target p with
  | error e => exact .inr ⟨_, rfl⟩
  | ok r =>
    obtain ⟨-, l, -, rfl⟩ := target_eq_ok_iff.mp found
    cases here : t.node? l with
    | none =>
      refine .inl ⟨l, rfl, by rw [here]; exact nofun, ?_⟩
      rw [targetAt_of_none here]
    | some n =>
      cases n with
      | directory =>
        rw [targetAt_of_some here]
        exact .inr ⟨_, rfl⟩
      | file old =>
        refine .inl ⟨l, rfl, by rw [here]; exact nofun, ?_⟩
        rw [targetAt_of_some here]

section Outcome

variable {t u : FileTree} {p : FilePath} {bytes : List UInt8}

/-- What a write that succeeded has changed: the path leads to a file with these bytes. -/
lemma write_ok (h : t.write p bytes = (u, .ok ())) :
    ∃ l, u.target p = .ok (.existing l (.file bytes)) ∧ t.Keeps u ∧
      ∀ m, m ≠ l → u.file? m = t.file? m := by
  obtain ⟨l, found, free, written⟩ | ⟨e, failed⟩ := t.write_cases p bytes
  · obtain rfl : t.put l (.file bytes) = u := congrArg Prod.fst (written.symm.trans h)
    have keeps : t.Keeps (t.put l (.file bytes)) := .put free _
    have after := keeps.target found
    rw [location_targetAt, targetAt_of_some (node?_put_self t (ne_top_of_node? free) _)] at after
    exact ⟨l, after, keeps, fun m other => file?_put_of_ne t other _⟩
  · rw [failed] at h
    cases h

/-- After a write that succeeded, the path leads to a file with the bytes that were written, other
files are as before, and paths lead where they led. -/
theorem writeDeep_ok (h : t.writeDeep p bytes = (u, .ok ())) :
    ∃ l, u.target p = .ok (.existing l (.file bytes)) ∧ t.Keeps u ∧
      ∀ m, m ≠ l → u.file? m = t.file? m := by
  have adds := t.adds_makeDirectories p.parent.parts.reverse
  rw [writeDeep] at h
  cases made : t.makeDirectories p.parent.parts.reverse with
  | mk v outcome =>
    rw [made] at h adds
    cases outcome with
    | error e => cases h
    | ok done =>
      obtain ⟨l, found, keeps, others⟩ := write_ok h
      refine ⟨l, found, adds.toKeeps.trans keeps, fun m other => ?_⟩
      exact (others m other).trans (adds.files m)

/-- A write that failed may have made directories, and nothing else. -/
theorem writeDeep_error {e : FileError} (h : t.writeDeep p bytes = (u, .error e)) : t.Adds u := by
  have adds := t.adds_makeDirectories p.parent.parts.reverse
  rw [writeDeep] at h
  cases made : t.makeDirectories p.parent.parts.reverse with
  | mk v outcome =>
    rw [made] at h adds
    cases outcome with
    | error e =>
      cases h
      exact adds
    | ok done =>
      obtain ⟨l, found, free, written⟩ | ⟨e, failed⟩ := v.write_cases p bytes
      · have := written.symm.trans h
        cases this
      · have := failed.symm.trans h
        cases this
        exact adds

end Outcome

end TargetAssembly.FileTree
