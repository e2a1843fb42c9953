import TargetAssembly.Library
import TargetAssembly.Proofs.KeyedLookup
import TargetAssembly.Proofs.Label.FullLabel

/-!
# The archives of a target

Archives are named for what they are made from, so that different resources can share one.
`storyboards_exact` counts the archives of storyboards by their names, and `listing_exact` says what
the list of all archives is.
-/

namespace TargetAssembly.ResourceArchive

/-!
## Names of archives

An archive is named for what it is made from: for the last component of a path, without a known
ending.  All archives of a target lie in one directory, so that two resources share an archive just
if they share that name, in whichever directories they lie themselves.  `storyboards_exact` counts
the archives of storyboards by these names, and `storyboards_lost` says that there can be fewer of
them than there are storyboards.
-/

variable (a : TestTarget)

/-! ### Where archives lie -/

/-- The directory of the intermediate files of a target; what is empty is left out. -/
def directoryOf : String := "/".intercalate ([a.package, "_objs", a.name].filter (· ≠ ""))

lemma path_intermediate_eq {file : String} (h : file ≠ "") :
    (intermediate a file).path = directoryOf a ++ "/" ++ file := by
  have kept : [file].filter (· ≠ "") = [file] := by simp [h]
  have parts : [a.package, "_objs", a.name, file].filter (· ≠ "") =
      [a.package, "_objs", a.name].filter (· ≠ "") ++ [file] := by
    have split : [a.package, "_objs", a.name, file] = [a.package, "_objs", a.name] ++ [file] := rfl
    rw [split, List.filter_append, kept]
  have objects : "_objs" ∈ [a.package, "_objs", a.name].filter (· ≠ "") := by simp
  have some_part := List.ne_nil_of_mem objects
  rw [intermediate, intermediateOf, parts, String.intercalate_append_of_ne_nil some_part (by simp),
    String.intercalate_singleton, directoryOf]

lemma intermediate_inj {file file' : String} (h : file ≠ "") (h' : file' ≠ "") :
    intermediate a file = intermediate a file' ↔ file = file' := by
  refine ⟨fun same => ?_, congrArg _⟩
  have paths := congrArg Artifact.path same
  rw [path_intermediate_eq a h, path_intermediate_eq a h'] at paths
  exact (String.append_right_inj _).mp paths

/-- Every archive has the ending of archives. -/
lemma exists_path_of_mem_all {l : Library} {x : Artifact} (hx : x ∈ all a l) :
    ∃ stem, x.path = stem ++ ".zip" := by
  have named (name ending : String) (h : ending ≠ "") :
      ∃ stem, (intermediate a (name ++ (ending ++ ".zip"))).path = stem ++ ".zip" := by
    refine ⟨directoryOf a ++ "/" ++ (name ++ ending), ?_⟩
    rw [path_intermediate_eq a (by simp [h])]
    simp only [String.append_assoc]
  rw [all, List.mem_eraseDups, List.mem_append, List.mem_map, List.mem_map] at hx
  rcases hx with ⟨model, -, rfl⟩ | ⟨storyboard, -, rfl⟩
  · exact named _ ".xcdatamodel" (by decide)
  · exact named _ ".storyboard" (by decide)

/-! ### Names without endings -/

/-- A text without an ending: what stands before it, or the text as it is if it ends otherwise. -/
inductive IsWithout (ending : String) : String → String → Prop
  /-- The text has the ending, which is taken off once. -/
  | cut (stem : String) : IsWithout ending (stem ++ ending) stem
  /-- The text ends otherwise. -/
  | kept {text : String} (other : ∀ stem, text ≠ stem ++ ending) : IsWithout ending text text

lemma isWithout_iff {ending text stem : String} :
    IsWithout ending text stem ↔ stem = without ending text := by
  constructor
  · intro h
    cases h with
    | cut stem =>
      rw [without, String.toList_append, Text.withoutEnding_append, String.ofList_toList]
    | kept other =>
      have ends : ending.toList.isSuffixOf text.toList = false := by
        rw [Bool.eq_false_iff, ne_eq, List.isSuffixOf_iff_suffix]
        rintro ⟨stem, split⟩
        refine other (String.ofList stem) ?_
        rw [← String.toList_inj, String.toList_append, String.toList_ofList, split]
      rw [without, Text.withoutEnding, ends, if_neg Bool.false_ne_true, String.ofList_toList]
  · rintro rfl
    by_cases ends : ending.toList <:+ text.toList
    · obtain ⟨stem, split⟩ := ends
      have whole : text = String.ofList stem ++ ending := by
        rw [← String.toList_inj, String.toList_append, String.toList_ofList, split]
      rw [without, ← split, Text.withoutEnding_append, whole]
      exact .cut _
    · have other : ∀ stem, text ≠ stem ++ ending := by
        rintro stem rfl
        exact ends (by simp)
      rw [without, Text.withoutEnding, if_neg (mt List.isSuffixOf_iff_suffix.mp ends),
        String.ofList_toList]
      exact .kept other

/-- The name of a storyboard: the last component of its path without the ending of storyboards. -/
def IsStoryboardName (storyboard : Artifact) (name : String) : Prop :=
  ∃ file, IsLastComponent storyboard.path file ∧ IsWithout ".storyboard" file name

lemma isStoryboardName_iff {storyboard : Artifact} {name : String} :
    IsStoryboardName storyboard name ↔ name = without ".storyboard" storyboard.fileName := by
  simp only [IsStoryboardName, isLastComponent_iff, isWithout_iff, exists_eq_left]
  rfl

/-- Two storyboards have the same name. -/
def Namesakes (s t : Artifact) : Prop :=
  ∃ name, IsStoryboardName s name ∧ IsStoryboardName t name

lemma namesakes_iff {s t : Artifact} :
    Namesakes s t ↔ without ".storyboard" s.fileName = without ".storyboard" t.fileName := by
  simp only [Namesakes, isStoryboardName_iff, exists_eq_left]

/-! ### Archives of storyboards -/

/-- The ending of archives of storyboards. -/
def storyboardEnding : String := ".storyboard.zip"

/-- Whether an artifact is an archive of a storyboard, by the ending of its path. -/
def isStoryboardArchive (x : Artifact) : Bool :=
  storyboardEnding.toList.isSuffixOf x.path.toList

/-- The archive of the storyboards of a name. -/
def archiveNamed (name : String) : Artifact := intermediate a (name ++ storyboardEnding)

lemma ofStoryboard_eq (storyboard : Artifact) :
    ofStoryboard a storyboard = archiveNamed a (without ".storyboard" storyboard.fileName) := rfl

lemma append_ne_empty {s t : String} (h : t ≠ "") : s ++ t ≠ "" := by
  simp [h]

lemma archiveNamed_injective : Function.Injective (archiveNamed a) := by
  intro name name' same
  rw [archiveNamed, archiveNamed, intermediate_inj a (append_ne_empty (by decide))
    (append_ne_empty (by decide))] at same
  exact (String.append_left_inj _).mp same

lemma isStoryboardArchive_ofStoryboard (storyboard : Artifact) :
    isStoryboardArchive (ofStoryboard a storyboard) = true := by
  rw [isStoryboardArchive, List.isSuffixOf_iff_suffix, ofStoryboard_eq, archiveNamed,
    path_intermediate_eq a (append_ne_empty (by decide)), ← String.append_assoc,
    String.toList_append]
  exact List.suffix_append _ _

lemma isStoryboardArchive_ofDataModel (model : Artifact) :
    isStoryboardArchive (ofDataModel a model) = false := by
  rw [Bool.eq_false_iff, ne_eq, isStoryboardArchive, List.isSuffixOf_iff_suffix, ofDataModel,
    dataModelFile, path_intermediate_eq a (append_ne_empty (by decide)), ← String.append_assoc,
    String.toList_append]
  intro ends
  -- of two endings of one path one is the ending of the other
  rcases List.suffix_or_suffix_of_suffix ends (List.suffix_append _ _) with h | h
  · exact absurd h (by decide)
  · exact absurd h (by decide)

lemma filter_all (l : Library) :
    (all a l).filter isStoryboardArchive = (l.storyboards.map (ofStoryboard a)).eraseDups := by
  have models : (l.dataModels.map (ofDataModel a)).filter isStoryboardArchive = [] := by
    rw [List.filter_eq_nil_iff]
    intro x hx
    obtain ⟨model, -, rfl⟩ := List.mem_map.mp hx
    simp [isStoryboardArchive_ofDataModel]
  have storyboards : (l.storyboards.map (ofStoryboard a)).filter isStoryboardArchive =
      l.storyboards.map (ofStoryboard a) := by
    rw [List.filter_eq_self]
    intro x hx
    obtain ⟨storyboard, -, rfl⟩ := List.mem_map.mp hx
    exact isStoryboardArchive_ofStoryboard a storyboard
  rw [all, ← eraseDups_filter, List.filter_append, models, storyboards, List.nil_append]

/-- Storyboards share an archive just if they share their name. -/
lemma ofStoryboard_eq_iff (s t : Artifact) :
    ofStoryboard a s = ofStoryboard a t ↔ Namesakes s t := by
  rw [ofStoryboard_eq, ofStoryboard_eq, (archiveNamed_injective a).eq_iff, namesakes_iff]

/-- Every storyboard has an archive of its own just if no two of them have the same name. -/
lemma length_filter_all_iff (l : Library) :
    ((all a l).filter isStoryboardArchive).length = l.storyboards.length ↔
      l.storyboards.Pairwise fun s t => ¬ Namesakes s t := by
  have one_each : (l.storyboards.map (ofStoryboard a)).length = l.storyboards.length :=
    List.length_map _
  rw [filter_all, ← one_each, length_eraseDups_eq_iff, List.Nodup, List.pairwise_map]
  simp only [ne_eq, ofStoryboard_eq_iff]

/-! ### Main result -/

/-- The archives of storyboards that a target builds are those of the storyboards of the library, as
many as there are different names.  So there is one for each storyboard just if no two storyboards
have the same name: two of the same name share their archive, whatever target it is for and wherever
they lie. -/
theorem storyboards_exact (l : Library) :
    (∀ x, x ∈ (all a l).filter isStoryboardArchive ↔ ∃ s ∈ l.storyboards, x = ofStoryboard a s) ∧
      (∃ names, List.Forall₂ IsStoryboardName l.storyboards names ∧
        ((all a l).filter isStoryboardArchive).length = names.eraseDups.length) ∧
      (((all a l).filter isStoryboardArchive).length = l.storyboards.length ↔
        l.storyboards.Pairwise fun s t => ¬ Namesakes s t) ∧
      ∀ (b : TestTarget) (s t : Artifact), ofStoryboard b s = ofStoryboard b t ↔ Namesakes s t := by
  refine ⟨fun x => ?_, ⟨l.storyboards.map fun s => without ".storyboard" s.fileName, ?_, ?_⟩,
    length_filter_all_iff a l, ofStoryboard_eq_iff⟩
  · rw [filter_all, List.mem_eraseDups, List.mem_map]
    exact exists_congr fun s => and_congr_right fun _ => eq_comm
  · rw [List.forall₂_map_right_iff, List.forall₂_same]
    exact fun s _ => isStoryboardName_iff.mpr rfl
  · have named : l.storyboards.map (ofStoryboard a) =
        (l.storyboards.map fun s => without ".storyboard" s.fileName).map (archiveNamed a) := by
      rw [List.map_map]
      rfl
    rw [filter_all, named, eraseDups_map (archiveNamed_injective a), List.length_map]

/-- Two storyboards of one file name, for two languages. -/
def localised : Library :=
  { storyboards := [{ path := "app/en.lproj/Main.storyboard", root := "src" },
      { path := "app/fr.lproj/Main.storyboard", root := "src" }] }

/-- Storyboards that are all different do not always have an archive each. -/
theorem storyboards_lost :
    ¬ ∀ (a : TestTarget) (l : Library), l.storyboards.Nodup →
      ((all a l).filter isStoryboardArchive).length = l.storyboards.length := by
  intro each
  have different : localised.storyboards.Nodup := by decide
  have apart := (length_filter_all_iff _ _).mp (each { label := "//app:tests" } localised different)
  -- both are called the same
  have english :
      IsStoryboardName { path := "app/en.lproj/Main.storyboard", root := "src" } "Main" :=
    ⟨"Main.storyboard", ⟨by decide, .inr ⟨"app/en.lproj", by decide⟩⟩, .cut "Main"⟩
  have french :
      IsStoryboardName { path := "app/fr.lproj/Main.storyboard", root := "src" } "Main" :=
    ⟨"Main.storyboard", ⟨by decide, .inr ⟨"app/fr.lproj", by decide⟩⟩, .cut "Main"⟩
  exact List.rel_of_pairwise_cons apart (List.mem_singleton_self _) ⟨"Main", english, french⟩

end TargetAssembly.ResourceArchive

namespace TargetAssembly.ResourceArchive

/-!
## The list of archives

A target builds the archives of data models first and then those of storyboards.  The two blocks
have no archive in common, since the endings of their archives differ, so that each block can be
freed of repetitions by itself.  Data models share an archive just if they have the same name, which
is what is left of a file name without two endings, taken off one after the other.  So a model and
its version of the same name share an archive, unless that name has the second ending once more:
`listing_exact` says so, and `versions_apart` that this does happen.
-/

variable (a : TestTarget)

/-! ### Names of data models -/

/-- The name of a data model: the last component of its path without the ending of models that have
versions, and then without the ending of versions, each taken off once. -/
def IsDataModelName (model : Artifact) (name : String) : Prop :=
  ∃ file stem, IsLastComponent model.path file ∧ IsWithout ".xcdatamodeld" file stem ∧
    IsWithout ".xcdatamodel" stem name

/-- Two data models have the same name. -/
def SameModel (m n : Artifact) : Prop := ∃ name, IsDataModelName m name ∧ IsDataModelName n name

lemma isDataModelName_iff {model : Artifact} {name : String} :
    IsDataModelName model name ↔ name = dataModelName model.fileName := by
  simp only [IsDataModelName, isLastComponent_iff, isWithout_iff, exists_eq_left, exists_and_left]
  rfl

lemma sameModel_iff {m n : Artifact} :
    SameModel m n ↔ dataModelName m.fileName = dataModelName n.fileName := by
  simp only [SameModel, isDataModelName_iff, exists_eq_left]

/-- Data models share an archive just if they share their name. -/
lemma ofDataModel_eq_iff (m n : Artifact) : ofDataModel a m = ofDataModel a n ↔ SameModel m n := by
  rw [ofDataModel, ofDataModel, dataModelFile, dataModelFile,
    intermediate_inj a (append_ne_empty (by decide)) (append_ne_empty (by decide)),
    String.append_left_inj, sameModel_iff]

/-! ### A model and its version -/

/-- A text is left as it is just if it does not have the ending. -/
lemma without_eq_self_iff {ending text : String} (proper : ending ≠ "") :
    without ending text = text ↔ ∀ stem, text ≠ stem ++ ending := by
  constructor
  · rintro kept stem rfl
    have cut : stem = stem ++ ending := (isWithout_iff.mp (.cut stem)).trans kept
    have nothing : stem ++ "" = stem ++ ending := by rwa [String.append_empty]
    exact proper ((String.append_right_inj stem).mp nothing).symm
  · intro other
    exact (isWithout_iff.mp (.kept other)).symm

lemma dataModelName_versioned (x : String) :
    dataModelName (x ++ ".xcdatamodeld") = without ".xcdatamodel" x := by
  have cut : x = without ".xcdatamodeld" (x ++ ".xcdatamodeld") := isWithout_iff.mp (.cut x)
  rw [dataModelName, ← cut]

lemma dataModelName_version (x : String) : dataModelName (x ++ ".xcdatamodel") = x := by
  -- the two endings differ in their last character
  have other : ∀ stem, x ++ ".xcdatamodel" ≠ stem ++ ".xcdatamodeld" := by
    intro stem same
    have last := congrArg (fun s => s.toList.getLast?) same
    simp at last
  have kept : x ++ ".xcdatamodel" = without ".xcdatamodeld" (x ++ ".xcdatamodel") :=
    isWithout_iff.mp (.kept other)
  have cut : x = without ".xcdatamodel" (x ++ ".xcdatamodel") := isWithout_iff.mp (.cut x)
  rw [dataModelName, ← kept, ← cut]

lemma sameModel_version_iff {m n : Artifact} {x : String}
    (versioned : IsLastComponent m.path (x ++ ".xcdatamodeld"))
    (version : IsLastComponent n.path (x ++ ".xcdatamodel")) :
    SameModel m n ↔ ∀ stem, x ≠ stem ++ ".xcdatamodel" := by
  have file : m.fileName = x ++ ".xcdatamodeld" := (isLastComponent_iff.mp versioned).symm
  have file' : n.fileName = x ++ ".xcdatamodel" := (isLastComponent_iff.mp version).symm
  rw [sameModel_iff, file, file', dataModelName_versioned, dataModelName_version,
    without_eq_self_iff (by decide)]

/-! ### The two blocks -/

lemma disjoint_blocks (l : Library) :
    (l.dataModels.map (ofDataModel a)).Disjoint (l.storyboards.map (ofStoryboard a)) := by
  intro x model storyboard
  obtain ⟨m, -, rfl⟩ := List.mem_map.mp model
  obtain ⟨s, -, same⟩ := List.mem_map.mp storyboard
  have ends := isStoryboardArchive_ofStoryboard a s
  rw [same, isStoryboardArchive_ofDataModel] at ends
  exact Bool.false_ne_true ends

lemma all_eq_append (l : Library) :
    all a l = (l.dataModels.map (ofDataModel a)).eraseDups ++
      (l.storyboards.map (ofStoryboard a)).eraseDups := by
  rw [all, eraseDups_append_of_disjoint (disjoint_blocks a l)]

/-! ### Main result -/

/-- The archives that a target builds are listed without repetition: first those of the data models
of the library, then those of its storyboards, each block in the order in which they are first seen,
and none in both.  Two data models share their archive, whatever target it is for, just if the last
components of their paths are the same without the two endings, in whichever directory and below
whichever root they lie.  So a model and its version of one name share it, except where this name
itself has the ending of versions. -/
theorem listing_exact (l : Library) :
    (all a l).Nodup ∧
    (∃ models storyboards, all a l = models ++ storyboards ∧ models.Disjoint storyboards ∧
      FirstSeen (l.dataModels.map (ofDataModel a)) models ∧
      FirstSeen (l.storyboards.map (ofStoryboard a)) storyboards) ∧
    (∀ (b : TestTarget) (m n : Artifact), ofDataModel b m = ofDataModel b n ↔ SameModel m n) ∧
    ∀ (b : TestTarget) (m n : Artifact) (x : String),
      IsLastComponent m.path (x ++ ".xcdatamodeld") →
      IsLastComponent n.path (x ++ ".xcdatamodel") →
      (ofDataModel b m = ofDataModel b n ↔ ∀ stem, x ≠ stem ++ ".xcdatamodel") := by
  refine ⟨nodup_eraseDups _, ⟨_, _, all_eq_append a l, ?_, firstSeen_eraseDups _,
    firstSeen_eraseDups _⟩, ofDataModel_eq_iff, ?_⟩
  · intro x model storyboard
    exact disjoint_blocks a l (List.mem_eraseDups.mp model) (List.mem_eraseDups.mp storyboard)
  · intro b m n x versioned version
    rw [ofDataModel_eq_iff]
    exact sameModel_version_iff versioned version

/-- A model with versions in one directory and a version of the same name in another one share their
archive. -/
theorem listing_versioned :
    IsLastComponent "app/Model.xcdatamodeld" ("Model" ++ ".xcdatamodeld") ∧
    IsLastComponent "lib/en/Model.xcdatamodel" ("Model" ++ ".xcdatamodel") ∧
    ofDataModel { label := "//app:tests" } { path := "app/Model.xcdatamodeld", root := "src" } =
      ofDataModel { label := "//app:tests" } { path := "lib/en/Model.xcdatamodel" } := by
  have versioned : IsLastComponent "app/Model.xcdatamodeld" ("Model" ++ ".xcdatamodeld") :=
    ⟨by decide, .inr ⟨"app", by decide⟩⟩
  have version : IsLastComponent "lib/en/Model.xcdatamodel" ("Model" ++ ".xcdatamodel") :=
    ⟨by decide, .inr ⟨"lib/en", by decide⟩⟩
  have proper : ∀ stem, "Model" ≠ stem ++ ".xcdatamodel" := by
    intro stem same
    have lengths := congrArg String.length same
    have model : "Model".length = 5 := by decide
    have ending : ".xcdatamodel".length = 12 := by decide
    rw [String.length_append] at lengths
    omega
  obtain ⟨-, -, -, shared⟩ := listing_exact { label := "//app:tests" } {}
  exact ⟨versioned, version, (shared _ _ _ "Model" versioned version).mpr proper⟩

/-- A model and its version of one name do not always share their archive. -/
theorem versions_apart :
    ¬ ∀ (a : TestTarget) (root root' x : String),
      ofDataModel a { path := x ++ ".xcdatamodeld", root } =
        ofDataModel a { path := x ++ ".xcdatamodel", root := root' } := by
  intro shared
  have same := (ofDataModel_eq_iff _ _ _).mp
    (shared { label := "//app:tests" } "src" "src" "Model.xcdatamodel")
  have versioned : IsLastComponent ("Model.xcdatamodel" ++ ".xcdatamodeld")
    ("Model.xcdatamodel" ++ ".xcdatamodeld") := ⟨by decide, .inl rfl⟩
  have version : IsLastComponent ("Model.xcdatamodel" ++ ".xcdatamodel")
    ("Model.xcdatamodel" ++ ".xcdatamodel") := ⟨by decide, .inl rfl⟩
  exact (sameModel_version_iff versioned version).mp same "Model" (by decide)

end TargetAssembly.ResourceArchive
