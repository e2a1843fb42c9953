import TargetAssembly.Proofs.Label.FullLabel
import TargetAssembly.Proofs.Registry.Answering
import TargetAssembly.Proofs.Registry.IllFormed
import TargetAssembly.Proofs.ResourceArchive.Naming

/-!
# Outputs of different targets

The outputs of a target are its archives of resources, its package, its debug symbols, the file of
its project and the script that runs its tests.  Their paths are made of the package and the name of
the target, and both can be read off them again: an output of another target is never the same.  So
two builds from registries share no file but the package of a host, as `shared_hostPackage` says.
-/

namespace TargetAssembly.Registry

open Label (inPackage inPackage_of_ne inPackage_append inPackage_inj)

/-! ## Where outputs lie -/

/-- All that a target can put out by itself; its archives are those of a library. -/
def outputs (a : TestTarget) (l : Library) : List Artifact :=
  ResourceArchive.all a l ++ [packageOf a, symbolsNamed a "test", projectFile a, testScript a]

/-- The endings of outputs that lie in the package of their target. -/
def endings : List String := [".ipa", ".test.dSYM", ".xcodeproj/project.pbxproj", "_test_script"]

/-- The ending of archives of resources. -/
def archiveEnding : String := ".zip"

/-- The directory of the intermediate files of a target. -/
def objects (a : TestTarget) : String := inPackage (inPackage a.package "_objs") a.name

/-- Where an output lies: in the package of its target and under its name, or with an archive among
the intermediate files. -/
inductive Placed (a : TestTarget) : String → Prop
  | beside {ending : String} (known : ending ∈ endings) : Placed a (a.outputPath ++ ending)
  | archive {stem : String} (slash : '/' ∉ stem.toList) :
    Placed a (inPackage (objects a) stem ++ archiveEnding)

section

variable {a b : TestTarget}

/-- No ending is the end of another one. -/
lemma eq_of_isSuffix_ending : ∀ e ∈ archiveEnding :: endings, ∀ f ∈ archiveEnding :: endings,
    e.toList <:+ f.toList → e = f := by
  decide

lemma append_ending_inj {s t e f : String} (he : e ∈ archiveEnding :: endings)
    (hf : f ∈ archiveEnding :: endings) (same : s ++ e = t ++ f) : s = t ∧ e = f := by
  have lists : s.toList ++ e.toList = t.toList ++ f.toList := by
    rw [← String.toList_append, same, String.toList_append]
  have endings_eq : e = f := by
    -- of two ends of one text one is the end of the other
    rcases List.suffix_or_suffix_of_suffix (List.suffix_append s.toList e.toList)
      (lists ▸ List.suffix_append t.toList f.toList) with h | h
    · exact eq_of_isSuffix_ending e he f hf h
    · exact (eq_of_isSuffix_ending f hf e he h).symm
  subst endings_eq
  exact ⟨(String.append_left_inj e).mp same, rfl⟩

lemma objects_inj (ha : '/' ∉ a.name.toList) (hb : '/' ∉ b.name.toList)
    (same : objects a = objects b) : a.package = b.package ∧ a.name = b.name := by
  obtain ⟨directories, names⟩ := inPackage_inj ha hb same
  exact ⟨(inPackage_inj (by decide) (by decide) directories).1, names⟩

/-- A path is that of an output of one target only. -/
lemma Placed.unique {path : String} (ha : '/' ∉ a.name.toList) (hb : '/' ∉ b.name.toList)
    (h : Placed a path) (k : Placed b path) : a.package = b.package ∧ a.name = b.name := by
  generalize same : path = path' at k
  cases h with
  | beside e =>
    cases k with
    | beside f =>
      obtain ⟨outputPaths, -⟩ := append_ending_inj (.tail _ e) (.tail _ f) same
      exact inPackage_inj ha hb outputPaths
    | archive k =>
      obtain ⟨-, rfl⟩ := append_ending_inj (.tail _ e) (.head _) same
      exact absurd e (by decide)
  | archive h =>
    cases k with
    | beside f =>
      obtain ⟨-, rfl⟩ := append_ending_inj (.head _) (.tail _ f) same
      exact absurd f (by decide)
    | archive k =>
      obtain ⟨archives, -⟩ := append_ending_inj (.head _) (.head _) same
      exact objects_inj ha hb (inPackage_inj h k archives).1

/-! ## Archives -/

lemma slash_without {ending s : String} (h : '/' ∉ s.toList) :
    '/' ∉ (ResourceArchive.without ending s).toList := by
  rw [ResourceArchive.without, String.toList_ofList, Text.withoutEnding]
  split_ifs
  · exact fun hm => h (List.mem_of_mem_take hm)
  · exact h

lemma slash_fileName (x : Artifact) : '/' ∉ x.fileName.toList := by
  rw [Artifact.fileName, lastComponent, String.toList_ofList]
  exact Text.not_mem_afterLast '/' x.path.toList

lemma objects_eq : objects a = inPackage a.package "_objs" ++ "/" ++ a.name := by
  have directory : inPackage a.package "_objs" ≠ "" := by
    rw [inPackage]
    split_ifs <;> simp
  rw [objects, inPackage_of_ne directory]

/-- The archives of a target lie in the directory of its intermediate files, as its name is not
empty. -/
lemma directoryOf_eq_objects (name : a.name ≠ "") : ResourceArchive.directoryOf a = objects a := by
  rw [objects_eq, ResourceArchive.directoryOf]
  -- only the package may be left out
  by_cases root : a.package = ""
  · have parts : [a.package, "_objs", a.name].filter (· ≠ "") = ["_objs", a.name] := by
      simp [root, name]
    rw [parts, root]
    rfl
  · have parts : [a.package, "_objs", a.name].filter (· ≠ "") = [a.package, "_objs", a.name] := by
      simp [root, name]
    rw [parts, inPackage_of_ne root]
    rfl

lemma path_intermediate {file : String} (name : a.name ≠ "") (hf : file ≠ "") :
    (ResourceArchive.intermediate a file).path = inPackage (objects a) file := by
  have nonempty : objects a ≠ "" := by simp [objects_eq]
  rw [ResourceArchive.path_intermediate_eq a hf, directoryOf_eq_objects name,
    inPackage_of_ne nonempty]

lemma placed_intermediate (name : a.name ≠ "") {stem : String} (slash : '/' ∉ stem.toList) :
    Placed a (ResourceArchive.intermediate a (stem ++ archiveEnding)).path := by
  have nonempty : stem ++ archiveEnding ≠ "" := by simp [archiveEnding]
  rw [path_intermediate name nonempty, inPackage_append]
  exact .archive slash

lemma placed_of_mem_all (name : a.name ≠ "") {l : Library} {x : Artifact}
    (hx : x ∈ ResourceArchive.all a l) : Placed a x.path := by
  have kept {stem : String} (slash : '/' ∉ stem.toList) (ending : String)
      (h : '/' ∉ ending.toList) : '/' ∉ (stem ++ ending).toList := by
    rw [String.toList_append, List.mem_append]
    exact not_or.mpr ⟨slash, h⟩
  rw [ResourceArchive.all, List.mem_eraseDups, List.mem_append, List.mem_map, List.mem_map] at hx
  rcases hx with ⟨model, -, rfl⟩ | ⟨storyboard, -, rfl⟩
  · have stem : '/' ∉ (ResourceArchive.dataModelName model.fileName).toList :=
      slash_without (slash_without (slash_fileName model))
    have placed := placed_intermediate name (kept stem ".xcdatamodel" (by decide))
    rwa [String.append_assoc] at placed
  · have stem : '/' ∉ (ResourceArchive.without ".storyboard" storyboard.fileName).toList :=
      slash_without (slash_fileName storyboard)
    have placed := placed_intermediate name (kept stem ".storyboard" (by decide))
    rwa [String.append_assoc] at placed

/-! ## The outputs of a build -/

lemma placed_of_mem_outputs (name : a.name ≠ "") {l : Library} {x : Artifact}
    (hx : x ∈ outputs a l) : Placed a x.path := by
  rw [outputs, List.mem_append] at hx
  rcases hx with archive | hx
  · exact placed_of_mem_all name archive
  · simp only [List.mem_cons, List.not_mem_nil, or_false] at hx
    rcases hx with rfl | rfl | rfl | rfl
    · exact .beside (by decide)
    · rw [symbolsNamed, String.append_assoc, String.append_assoc]
      exact .beside (by decide)
    · exact .beside (by decide)
    · exact .beside (by decide)

/-- The package of the host of a target, which is not made by the build. -/
def IsHostPackage (r : Registry) (a : TestTarget) (x : Artifact) : Prop :=
  ∃ h, a.isHosted = true ∧ r.hostOf a = some h ∧ x = h.ipa

lemma isHostPackage_of_host {r : Registry} {h : HostApp} (found : r.answers.host a = some h) :
    IsHostPackage r a h.ipa := by
  rw [Answers.host, Answers.mode_eq] at found
  cases hosted : a.isHosted with
  | false =>
    rw [hosted] at found
    cases found
  | true =>
    rw [hosted] at found
    exact ⟨h, hosted, found, rfl⟩

/-- The files of a build are outputs of its target, and perhaps the package of its host. -/
lemma mem_files {r : Registry} {c : Configuration} {x : Artifact} (hx : x ∈ r.answers.files a c) :
    x ∈ outputs a (r.answers.common a c).library ∨ IsHostPackage r a x := by
  have linked : ∀ x ∈ (r.answers.linkedFiles a c).flatMap Prod.snd,
      x ∈ [packageOf a, symbolsNamed a "test"] ∨ IsHostPackage r a x := by
    intro x hx
    rw [Answers.linkedFiles, Answers.link_eq] at hx
    by_cases hostless : r.answers.Hostless a
    · rw [if_pos hostless] at hx
      cases hx
    · rw [if_neg hostless] at hx
      simp only [r.answers_bundle a c hostless, List.flatMap_append, List.mem_append] at hx
      rcases hx with host | bundled
      · cases found : r.answers.host a with
        | none =>
          rw [found] at host
          cases host
        | some h =>
          rw [found] at host
          obtain rfl : x = h.ipa := by simpa using host
          exact .inr (isHostPackage_of_host found)
      · exact .inl bundled
  rw [Answers.files, List.mem_append, List.mem_append, List.mem_append] at hx
  rw [outputs, List.mem_append]
  rcases hx with archive | hx | project | script
  · exact .inl (.inl archive)
  · rcases linked x hx with bundled | host
    · exact .inl (.inr (List.mem_append_left [projectFile a, testScript a] bundled))
    · exact .inr host
  · obtain rfl : x = projectFile a := List.mem_singleton.mp project
    exact .inl (.inr (by simp))
  · obtain rfl : x = testScript a := List.mem_singleton.mp script
    exact .inl (.inr (by simp))

end

/-! ## Main result -/

lemma unique_output {l m : FullLabel} {a b : TestTarget} (ha : a.label = l.text)
    (hb : b.label = m.text) {la lb : Library} {x y : Artifact} (hx : x ∈ outputs a la)
    (hy : y ∈ outputs b lb) (same : x.path = y.path) : a.label = b.label := by
  have package {t : TestTarget} {k : FullLabel} (h : t.label = k.text) : t.package = k.package := by
    rw [TestTarget.package, h, k.package_text]
  have name {t : TestTarget} {k : FullLabel} (h : t.label = k.text) : t.name = k.name := by
    rw [TestTarget.name, h, k.name_text]
  have placed := placed_of_mem_outputs (name ha ▸ l.name_ne) hx
  rw [same] at placed
  obtain ⟨packages, names⟩ := placed.unique (name ha ▸ l.slash_name) (name hb ▸ m.slash_name)
    (placed_of_mem_outputs (name hb ▸ m.name_ne) hy)
  rw [ha, hb]
  refine FullLabel.text_eq ?_ ?_
  · rw [← package ha, packages, package hb]
  · rw [← name ha, names, name hb]

/-- Two builds from registries for different targets, both with full labels, end with descriptions
that share no file but the package of the host of one of the targets.  Whatever libraries archives
are made for, no output of one target has the path of an output of the other. -/
theorem shared_hostPackage (r s : Registry) (a b : TestTarget) (c c' : Configuration)
    (l m : FullLabel) (ha : a.label = l.text) (hb : b.label = m.text)
    (different : a.label ≠ b.label) :
    ∃ d d', (∀ p, (Assembly.runFrom p (Assembly.assemble r.resolver a c)).1 = .ok d) ∧
      (∀ p, (Assembly.runFrom p (Assembly.assemble s.resolver b c')).1 = .ok d') ∧
      (∀ x ∈ d.filesToBuild.toList, x ∈ d'.filesToBuild.toList →
        IsHostPackage r a x ∨ IsHostPackage s b x) ∧
      ∀ la lb, ∀ x ∈ outputs a la, ∀ y ∈ outputs b lb, x.path ≠ y.path := by
  have apart : ∀ la lb, ∀ x ∈ outputs a la, ∀ y ∈ outputs b lb, x.path ≠ y.path :=
    fun la lb x hx y hy same => different (unique_output ha hb hx hy same)
  obtain ⟨d, yields, run⟩ := r.exists_assembled a c
  obtain ⟨d', yields', run'⟩ := s.exists_assembled b c'
  refine ⟨d, d', fun p => ?_, fun p => ?_, fun x hx hx' => ?_, apart⟩
  · obtain ⟨q, ran, -⟩ := run p
    rw [ran]
  · obtain ⟨q, ran, -⟩ := run' p
    rw [ran]
  · rw [yields.files, List.mem_eraseDups] at hx
    rw [yields'.files, List.mem_eraseDups] at hx'
    rcases mem_files hx with own | host
    · rcases mem_files hx' with own' | host'
      · exact absurd rfl (apart _ _ x own x own')
      · exact .inr host'
    · exact .inl host

/-- An application that is registered as a host. -/
def commonHost : HostApp :=
  { label := "//app:main"
    linkedBinary := { path := "app/main_bin" }
    ipa := { path := "app/main.ipa" } }

/-- A registry of one application. -/
def hosting : Registry := { hosts := [(commonHost.label, commonHost)] }

/-- A hosted unit test with a storyboard, for the registered application. -/
def hostedTests (l : FullLabel) : TestTarget :=
  { label := l.text
    isHosted := true
    storyboards := ["main.storyboard"]
    hostLabel := some commonHost.label }

/-- A label whose package is a directory of intermediate files. -/
def underObjects : FullLabel where
  package := "app/_objs"
  name := "tests"
  colon_package := by decide
  slash_package := by decide
  name_ne := by decide
  colon_name := by decide
  slash_name := by decide

/-- The label of the same name in the package above. -/
def aboveObjects : FullLabel where
  package := "app"
  name := "tests"
  colon_package := by decide
  slash_package := by decide
  name_ne := by decide
  colon_name := by decide
  slash_name := by decide

/-- The tests in a package and those in the directory of its intermediate files share the package of
their common host alone. -/
theorem shared_underObjects :
    (hostedTests aboveObjects).label ≠ (hostedTests underObjects).label ∧
    ∃ d d', (∀ p, (Assembly.runFrom p
        (Assembly.assemble hosting.resolver (hostedTests aboveObjects) {})).1 = .ok d) ∧
      (∀ p, (Assembly.runFrom p
        (Assembly.assemble hosting.resolver (hostedTests underObjects) {})).1 = .ok d') ∧
      ∀ x ∈ d.filesToBuild.toList, x ∈ d'.filesToBuild.toList → x = commonHost.ipa := by
  have different : (hostedTests aboveObjects).label ≠ (hostedTests underObjects).label := by decide
  have hostPackage : ∀ l x, IsHostPackage hosting (hostedTests l) x → x = commonHost.ipa := by
    rintro l x ⟨h, -, found, rfl⟩
    have known : hosting.hostOf (hostedTests l) = some commonHost := rfl
    rw [known] at found
    cases found
    rfl
  obtain ⟨d, d', run, run', shared, -⟩ := shared_hostPackage hosting hosting
    (hostedTests aboveObjects) (hostedTests underObjects) {} {} aboveObjects underObjects rfl rfl
    different
  refine ⟨different, d, d', run, run', fun x hx hx' => ?_⟩
  rcases shared x hx hx' with h | h
  · exact hostPackage _ x h
  · exact hostPackage _ x h

end TargetAssembly.Registry

namespace TargetAssembly.Registry

/-!
## What the tests need when they run

The tests of a target are run by a script, which is the program of the target, and need the package
of the target and the tool that runs tests.  The script is built in any case and the tool never; the
package is built where the target is linked.  `runfiles_exact` says that a description refers only
to files that the target builds, and to the tool, just if no missing host is reported.
-/

variable (r : Registry) (a : TestTarget) (c : Configuration)

/-! ### The files that are needed -/

lemma toList_runfiles :
    (runfiles a c).artifacts.toList = [testScript a, testRunnerTool, packageOf a] := by
  have script : testScript a ≠ testRunnerTool := fun same =>
    absurd (congrArg Artifact.root same) (show "bin" ≠ "tools" by decide)
  have package : packageOf a ≠ testRunnerTool := fun same =>
    absurd (congrArg Artifact.root same) (show "bin" ≠ "tools" by decide)
  have apart : testScript a ≠ packageOf a := fun same =>
    absurd ((String.append_right_inj _).mp (congrArg Artifact.path same)) (by decide)
  have nodup : [testScript a, testRunnerTool, packageOf a].Nodup := by
    simp [script, apart, package.symm]
  rw [runfiles, ArtifactSet.toList_ofList, eraseDups_eq_self nodup]

/-- A description has one extra value for the runner of its tests. -/
lemma filter_extras :
    (testSupport a c).extras.filter (·.typeName = "TestRunnerInfo") = [(testRunner a).toValue] := by
  rw [testSupport, coverageTool]
  split_ifs <;> rfl

/-! ### The files that are built -/

lemma testScript_mem_files : testScript a ∈ r.answers.files a c := by
  rw [Answers.files, List.mem_append, List.mem_append, List.mem_append]
  exact .inr (.inr (.inr (List.mem_singleton_self _)))

/-- The package of a target is none of its other files. -/
lemma packageOf_not_mem :
    packageOf a ∉ ResourceArchive.all a (r.answers.common a c).library ++
      [projectFile a, testScript a] := by
  intro h
  rw [List.mem_append] at h
  rcases h with archive | other
  · obtain ⟨stem, path⟩ := ResourceArchive.exists_path_of_mem_all a archive
    have endings := (append_ending_inj (.tail _ (.head _)) (.head _) path).2
    exact absurd endings (by decide)
  · simp only [List.mem_cons, List.not_mem_nil, or_false] at other
    rcases other with same | same
    · exact absurd ((String.append_right_inj _).mp (congrArg Artifact.path same)) (by decide)
    · exact absurd ((String.append_right_inj _).mp (congrArg Artifact.path same)) (by decide)

/-- The package is built just if the target is linked. -/
lemma packageOf_mem_files_iff : packageOf a ∈ r.answers.files a c ↔ ¬ r.Unhosted a := by
  rw [← hostless_iff, Answers.files, Answers.linkedFiles, Answers.link_eq]
  by_cases hostless : r.answers.Hostless a
  · rw [if_pos hostless]
    refine iff_of_false (fun h => r.packageOf_not_mem a c ?_) (not_not_intro hostless)
    exact h
  · rw [if_neg hostless]
    refine iff_of_true ?_ hostless
    simp [r.answers_bundle a c hostless]

/-- A missing host is reported just if the target has none. -/
lemma reports_missingHost_iff :
    (∀ x ∈ r.answers.diagnostics a c, x.code ≠ some "E_MISSING_HOST_APP") ↔ ¬ r.Unhosted a := by
  rw [diagnostics_eq]
  constructor
  · intro free unhosted
    refine free Answers.missingHost ?_ rfl
    simp [unhosted]
  · intro hosted x reported
    rw [if_neg hosted, List.append_nil] at reported
    simp only [List.mem_append, List.mem_ite_nil_right, List.mem_singleton, List.mem_map]
      at reported
    rcases reported with (⟨-, rfl⟩ | ⟨-, rfl⟩) | ⟨path, -, rfl⟩
    · decide
    · decide
    · exact nofun

/-! ### Main result -/

/-- A build ends with a description whose program, a file that the target builds, is run when the
tests run and is among the files needed then.  All of these but the runner of the tests are outputs,
and the target builds them just if no missing host is reported. -/
theorem runfiles_exact (p : Progress) :
    ∃ (d : Description) (q : Progress) (reported : List Diagnostic) (script : Artifact)
      (needed : Runfiles) (runner : TestRunner),
      Assembly.runFrom p (Assembly.assemble r.resolver a c) = (.ok d, q) ∧
      q.ledger.about a.label = p.ledger.about a.label ++ reported ∧
      (∀ label ≠ a.label, q.ledger.about label = p.ledger.about label) ∧
      d.executable = some script ∧ d.runfiles = some needed ∧ needed.executable = some script ∧
      script ∈ needed.artifacts.toList ∧ script ∈ d.filesToBuild.toList ∧
      d.extrasWhere (·.typeName = "TestRunnerInfo") = [runner.toValue] ∧
      needed.artifacts.toList.filter (·.root ≠ "bin") = [runner.runner] ∧
      ((∀ x ∈ needed.artifacts.toList, x.root = "bin" → x ∈ d.filesToBuild.toList) ↔
        ∀ y ∈ reported, y.code ≠ some "E_MISSING_HOST_APP") := by
  obtain ⟨d, yields, ended⟩ := r.exists_assembled a c
  obtain ⟨q, run, -, reported, others, -⟩ := ended p
  have built : ∀ x, x ∈ d.filesToBuild.toList ↔ x ∈ r.answers.files a c := fun x => by
    rw [yields.files, List.mem_eraseDups]
  have script := r.testScript_mem_files a c
  have supplied : d.runfiles = some (runfiles a c) := by
    rw [Description.runfiles_eq_some_iff, yields.capability]
    exact ⟨.tail _ (.head _), rfl⟩
  refine ⟨d, q, _, testScript a, runfiles a c, testRunner a, run, reported, others,
    yields.executable, supplied, rfl, ?_, (built _).mpr script, ?_, ?_, ?_⟩
  · rw [toList_runfiles]
    exact .head _
  · rw [Description.extrasWhere, yields.extras]
    exact filter_extras a c
  · rw [toList_runfiles]
    rfl
  · rw [reports_missingHost_iff, ← packageOf_mem_files_iff r a c, toList_runfiles]
    constructor
    · intro closed
      exact (built _).mp (closed (packageOf a) (.tail _ (.tail _ (.head _))) rfl)
    · intro package x needed root
      simp only [List.mem_cons, List.not_mem_nil, or_false] at needed
      rcases needed with rfl | rfl | rfl
      · exact (built _).mpr script
      · exact absurd root (show "tools" ≠ "bin" by decide)
      · exact (built _).mpr package

end TargetAssembly.Registry
