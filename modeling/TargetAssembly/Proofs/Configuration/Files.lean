import TargetAssembly.Configuration.Text
import TargetAssembly.Proofs.Configuration.RoundTrip
import TargetAssembly.Proofs.FileTree.Writing
import TargetAssembly.Proofs.Json.RoundTrip
import TargetAssembly.Proofs.Text.Utf8

/-!
# Configurations in files

A configuration that was saved is what is loaded from its path, and from every other path that leads
to the same file, until a later save to that file succeeds.  Saving a configuration touches no other
file, and no file at all if it fails.  One save is taken apart by `save_cases`; a sequence of saves
is followed by what stands at one location, which each save either sets or leaves.
-/

namespace TargetAssembly.Configuration

open Text

/-! ## One save -/

/-- The bytes of the file that a configuration is saved to. -/
def saved (c : Configuration) : List UInt8 := Utf8.encode c.written

/-- What is written of a configuration keeps its line ends. -/
lemma lineFeeds_written (c : Configuration) : Utf8.lineFeeds c.written = c.written := by
  have clean : Json.Clean c.written :=
    (Json.clean_indented c.settled_parsed.readable_toJson 0).append (by decide)
  exact Utf8.lineFeeds_of_not_mem clean.return_not_mem

lemma load_of_target {c : Configuration} (named : c.Named) {t : FileTree} {p : FilePath}
    {l : Location} (found : t.target p = .ok (.existing l (.file c.saved))) :
    load t p = .ok c.parsed := by
  have given : parse c.written = .ok c.parsed :=
    parse_written_of_named c.settled_parsed named.parsed
  simp only [load, FileTree.read_of_target found, saved, Utf8.decode_encode, lineFeeds_written,
    given]

/-- A save either puts the file that its path leads to, or adds directories at most. -/
lemma save_cases (c : Configuration) (t : FileTree) (p : FilePath) :
    (∃ u l, c.save t p = (u, .ok ()) ∧ u.target p = .ok (.existing l (.file c.saved)) ∧
        t.Keeps u ∧ ∀ m, m ≠ l → u.file? m = t.file? m) ∨
      ∃ u e, c.save t p = (u, .error e) ∧ t.Adds u := by
  cases done : c.save t p with
  | mk u outcome =>
    cases outcome with
    | ok _ =>
      obtain ⟨l, found, keeps, others⟩ := FileTree.writeDeep_ok done
      exact .inl ⟨u, l, rfl, found, keeps, others⟩
    | error e => exact .inr ⟨u, e, rfl, FileTree.writeDeep_error done⟩

/-! ## Several saves -/

/-- The location of the file that a path leads to. -/
def fileAt? (t : FileTree) (p : FilePath) : Option Location :=
  match t.target p with
  | .ok (.existing l (.file _)) => some l
  | _ => none

/-- The location of the file that a save has written, if it succeeds. -/
def savedAt? (c : Configuration) (t : FileTree) (p : FilePath) : Option Location :=
  match c.save t p with
  | (u, .ok ()) => fileAt? u p
  | (_, .error _) => none

/-- The tree after configurations were saved in order, each to its path. -/
def saveAll (t : FileTree) : List (Configuration × FilePath) → FileTree
  | [] => t
  | (c, p) :: saves => saveAll (c.save t p).1 saves

/-- The configuration of the last save that has written the file at a location. -/
def lastSaved? (l : Location) (t : FileTree) :
    List (Configuration × FilePath) → Option Configuration
  | [] => none
  | (c, p) :: saves =>
    (lastSaved? l (c.save t p).1 saves).or (if c.savedAt? t p = some l then some c else none)

lemma fileAt?_eq_some_iff {t : FileTree} {p : FilePath} {l : Location} :
    fileAt? t p = some l ↔ ∃ bytes, t.target p = .ok (.existing l (.file bytes)) := by
  constructor
  · intro leads
    unfold fileAt? at leads
    split at leads
    case h_1 m bytes found =>
      cases leads
      exact ⟨bytes, found⟩
    case h_2 => cases leads
  · rintro ⟨bytes, found⟩
    rw [fileAt?, found]

lemma target_of_fileAt? {t : FileTree} {p : FilePath} {l : Location} {bytes : List UInt8}
    (leads : fileAt? t p = some l) (file : t.file? l = some bytes) :
    t.target p = .ok (.existing l (.file bytes)) := by
  obtain ⟨old, found⟩ := fileAt?_eq_some_iff.mp leads
  have same : some (FileNode.file old) = some (.file bytes) :=
    (FileTree.node?_of_target found).symm.trans (FileTree.file?_eq_some_iff.mp file)
  cases same
  exact found

lemma savedAt?_of_ok {c : Configuration} {t u : FileTree} {p : FilePath} {l : Location}
    {bytes : List UInt8} (done : c.save t p = (u, .ok ()))
    (found : u.target p = .ok (.existing l (.file bytes))) : c.savedAt? t p = some l := by
  rw [savedAt?, done]
  dsimp only
  rw [fileAt?, found]

lemma savedAt?_of_error {c : Configuration} {t u : FileTree} {p : FilePath} {e : FileError}
    (failed : c.save t p = (u, .error e)) : c.savedAt? t p = none := by
  rw [savedAt?, failed]

/-- What one save makes of the file at a location. -/
lemma file?_save (c : Configuration) (t : FileTree) (p : FilePath) (l : Location) :
    (c.save t p).1.file? l = if c.savedAt? t p = some l then some c.saved else t.file? l := by
  obtain ⟨u, m, done, found, -, others⟩ | ⟨u, e, failed, adds⟩ := save_cases c t p
  · rw [savedAt?_of_ok done found, done]
    by_cases same : m = l
    · subst same
      rw [if_pos rfl]
      exact FileTree.file?_eq_some_iff.mpr (FileTree.node?_of_target found)
    · rw [if_neg fun h => same (Option.some.inj h)]
      exact others l (Ne.symm same)
  · rw [savedAt?_of_error failed, failed, if_neg nofun]
    exact adds.files l

lemma keeps_save (c : Configuration) (t : FileTree) (p : FilePath) : t.Keeps (c.save t p).1 := by
  obtain ⟨u, l, done, -, keeps, -⟩ | ⟨u, e, failed, adds⟩ := save_cases c t p
  · rwa [done]
  · rw [failed]
    exact adds.toKeeps

lemma keeps_saveAll (t : FileTree) (saves : List (Configuration × FilePath)) :
    t.Keeps (saveAll t saves) := by
  induction saves generalizing t with
  | nil => exact .refl t
  | cons x saves ih => exact (keeps_save x.1 t x.2).trans (ih _)

/-- After several saves a file holds what was last saved to it, or what it held before. -/
lemma file?_saveAll (t : FileTree) (saves : List (Configuration × FilePath)) (l : Location) :
    (saveAll t saves).file? l = ((lastSaved? l t saves).map saved).or (t.file? l) := by
  induction saves generalizing t with
  | nil => rfl
  | cons x saves ih =>
    rw [saveAll, ih, file?_save, lastSaved?]
    cases lastSaved? l (x.1.save t x.2).1 saves with
    | some c => rfl
    | none =>
      by_cases here : x.1.savedAt? t x.2 = some l
      · simp only [if_pos here]; rfl
      · simp only [if_neg here]; rfl

/-- A path that leads to a file still leads there after several saves. -/
lemma fileAt?_saveAll {t : FileTree} {p : FilePath} {l : Location} (leads : fileAt? t p = some l)
    (saves : List (Configuration × FilePath)) : fileAt? (saveAll t saves) p = some l := by
  obtain ⟨bytes, found⟩ := fileAt?_eq_some_iff.mp leads
  have after : (saveAll t saves).target p = .ok ((saveAll t saves).targetAt l) :=
    (keeps_saveAll t saves).target found
  -- a file that is overwritten stays a file
  have file : ∃ bytes', (saveAll t saves).file? l = some bytes' := by
    rw [file?_saveAll, FileTree.file?_eq_some_iff.mpr (FileTree.node?_of_target found)]
    cases lastSaved? l t saves with
    | none => exact ⟨bytes, rfl⟩
    | some c => exact ⟨c.saved, rfl⟩
  obtain ⟨bytes', here⟩ := file
  rw [FileTree.targetAt_of_some (FileTree.file?_eq_some_iff.mp here)] at after
  exact fileAt?_eq_some_iff.mpr ⟨bytes', after⟩

/-! ## Main result -/

/-- A save that succeeds leaves a file with the text of the configuration where its path leads,
which is where the path led before if it led anywhere, and leaves every other file as it was; the
configuration is loaded from there if no name in it is empty.  A save that fails leaves all files as
they were.  So after any saves a file holds what was last saved to it, or else what it held before;
each path that led to a file leads there still, and what is loaded from it is the configuration that
was last saved to the file. -/
theorem save_load :
    (∀ (c : Configuration) (t u : FileTree) (p : FilePath), c.save t p = (u, .ok ()) →
      ∃ l, u.target p = .ok (.existing l (.file (Utf8.encode c.written))) ∧
        (∀ r, t.target p = .ok r → r.location = l) ∧
        (∀ m, m ≠ l → u.file? m = t.file? m) ∧ (c.Named → load u p = .ok c.parsed)) ∧
    (∀ (c : Configuration) (t u : FileTree) (p : FilePath) (e : FileError),
      c.save t p = (u, .error e) → ∀ l, u.file? l = t.file? l) ∧
    ∀ (t : FileTree) (saves : List (Configuration × FilePath)) (l : Location),
      (saveAll t saves).file? l =
        ((lastSaved? l t saves).map fun c => Utf8.encode c.written).or (t.file? l) ∧
      (∀ p, fileAt? t p = some l → fileAt? (saveAll t saves) p = some l) ∧
      ∀ p c, fileAt? (saveAll t saves) p = some l → lastSaved? l t saves = some c → c.Named →
        load (saveAll t saves) p = .ok c.parsed := by
  refine ⟨?_, ?_, ?_⟩
  · intro c t u p done
    obtain ⟨l, found, keeps, others⟩ := FileTree.writeDeep_ok done
    refine ⟨l, found, ?_, others, fun named => load_of_target named found⟩
    intro r before
    have after := (keeps.target before).symm.trans found
    rw [← FileTree.location_targetAt u r.location, Except.ok.inj after]
    rfl
  · intro c t u p e failed
    exact (FileTree.writeDeep_error failed).files
  · intro t saves l
    refine ⟨file?_saveAll t saves l, fun p leads => fileAt?_saveAll leads saves, ?_⟩
    intro p c leads last named
    have file : (saveAll t saves).file? l = some c.saved := by
      rw [file?_saveAll, last]
      rfl
    exact load_of_target named (target_of_fileAt? leads file)

/-- A directory with one file, which holds no text. -/
def tree : FileTree := ⟨[(["app"], .directory), (["app", "old.json"], .file [0xff])]⟩

/-- A save to a directory that has to be made, and one to the same file by another way. -/
def twoSaves : List (Configuration × FilePath) :=
  [({}, .ofText "app/new/c.json"), (unusual, .ofText "app/./new/../new//c.json")]

/-- The second of two saves to a file is loaded by the path of the first, a save to the top is
loaded from there, and a save below a file leaves the files as they were. -/
theorem save_load_overwritten :
    (fileAt? (saveAll tree twoSaves) (.ofText "app/new/c.json") = some ["app", "new", "c.json"] ∧
      lastSaved? ["app", "new", "c.json"] tree twoSaves = some unusual ∧
      load (saveAll tree twoSaves) (.ofText "app/new/c.json") = .ok unusual.parsed) ∧
    (fileAt? tree (.ofText "app/old.json") = some ["app", "old.json"] ∧
      fileAt? (saveAll tree twoSaves) (.ofText "app/old.json") = some ["app", "old.json"]) ∧
    ((unusual.save tree (.ofText "c.json")).2 = .ok () ∧
      load (unusual.save tree (.ofText "c.json")).1 (.ofText "c.json") = .ok unusual.parsed) ∧
    (unusual.save tree (.ofText "app/old.json/c.json")).2 =
        .error ⟨.alreadyExists, .ofText "app/old.json"⟩ ∧
      ∀ l, (unusual.save tree (.ofText "app/old.json/c.json")).1.file? l = tree.file? l := by
  have named : unusual.Named := ⟨by decide, by decide, by decide, by decide⟩
  have leads : fileAt? (saveAll tree twoSaves) (.ofText "app/new/c.json") =
    some ["app", "new", "c.json"] := rfl
  have last : lastSaved? ["app", "new", "c.json"] tree twoSaves = some unusual := rfl
  have old : fileAt? tree (.ofText "app/old.json") = some ["app", "old.json"] := rfl
  obtain ⟨-, -, -, -, loaded⟩ := save_load.1 unusual tree _ (.ofText "c.json") rfl
  exact ⟨⟨leads, last, (save_load.2.2 tree twoSaves _).2.2 _ _ leads last named⟩,
    ⟨old, (save_load.2.2 tree twoSaves _).2.1 _ old⟩, ⟨rfl, loaded named⟩,
    rfl, save_load.2.1 unusual tree _ (.ofText "app/old.json/c.json") _ rfl⟩

end TargetAssembly.Configuration
