import TargetAssembly.Proofs.Contribution.Permuting
import TargetAssembly.Proofs.Registry.Ignored
import TargetAssembly.Proofs.Registry.Outputs

/-!
# What gathering coverage adds

A build for coverage knows which sources are counted, and has a file of notes for each of them that
is named for the source.  `coverage_exact` compares it with the build of the same target for which
no coverage is gathered: they differ in one capability, which is there but empty without coverage,
and in one extra value, and report and log the same.
-/

namespace TargetAssembly

/-! ## Descriptions -/

namespace Answers

variable (f : Answers) (a : TestTarget) (c : Configuration)

/-- The sets of files that are contributed to a build. -/
def fileSets : List ArtifactSet :=
  .ofList (ResourceArchive.all a (f.common a c).library) ::
    ((f.linkedFiles a c).map fun e => .ofList e.2) ++
      [.empty, .ofList (f.project a c).files, .ofList (f.tests a c).files, .empty]

lemma map_files_contributions : (f.contributions a c).map (·.files) = f.fileSets a c := by
  rw [contributions, contributions_linked, fileSets, List.map_append, List.map_cons, List.map_map]
  rfl

/-- What all that is contributed to a build comes to. -/
def description : Description :=
  { label := a.label
    filesToBuild := ((f.fileSets a c).foldl ArtifactSetBuilder.addTransitive {}).build
    capabilities := (f.supplies a c).filterMap fun s => s.kind?.map (·, s)
    extras := (f.tests a c).extras
    executable := (f.tests a c).executable }

lemma union_contributions :
    Contribution.union a.label (f.contributions a c) = f.description a c := by
  have program : (f.tests a c).executable.toList.head? = (f.tests a c).executable := by
    cases (f.tests a c).executable <;> rfl
  rw [Contribution.union, map_files_contributions, supplies_contributions, extras_contributions,
    executables_contributions, program, description]

end Answers

namespace Registry

variable (r : Registry) (a : TestTarget) (c : Configuration)

/-- A build goes through its steps and ends with the note of what it came to. -/
lemma runFrom_assemble_eq (p : Progress) :
    Assembly.runFrom p (Assembly.assemble r.resolver a c) = (.ok (r.answers.description a c),
      (p.after (r.answers.trace a c)).record (Assembly.closingNote a (r.answers.description a c)
        (p.after (r.answers.trace a c)))) := by
  obtain ⟨d, -, ended⟩ := r.exists_assembled a c
  obtain ⟨q, run, -⟩ := ended p
  have merged := r.fst_runFrom_assemble a c p
  rw [run, Contribution.runFrom_merge] at merged
  cases h : Contribution.mergeAll a.label (r.answers.contributions a c) with
  | error e =>
    rw [h] at merged
    cases merged
  | ok d' =>
    obtain ⟨-, -, rfl⟩ := Contribution.mergeAll_eq_ok_iff.mp h
    rw [runFrom_assemble, Assembly.runFrom_conclude, Contribution.runFrom_merge, h,
      ← Answers.union_contributions]
    rfl

/-! ## Notes of sources -/

/-- A file lies directly in a directory. -/
def LiesIn (directory : String) (x : Artifact) : Prop :=
  ∃ file, '/' ∉ file.toList ∧ x.path = directory ++ "/" ++ file

/-- The notes of a source: a file among the intermediate files of the target that has the stem of
the name of the source. -/
def IsNotes (source note : Artifact) : Prop :=
  ∃ name stem, IsLastComponent source.path name ∧ IsStem name stem ∧
    note = { path := objects a ++ "/" ++ (stem ++ ".gcno") }

lemma objectPath_eq (file : String) : a.objectPath file = objects a ++ "/" ++ file := by
  rw [TestTarget.objectPath, objects_eq]
  by_cases root : a.package = ""
  · rw [root]
    simp [Label.inPackage, String.append_assoc]
  · rw [Label.inPackage_of_ne root, Label.inPackage_of_ne root]
    simp only [String.append_assoc]
    rfl

variable {a}

lemma isNotes_iff {source note : Artifact} :
    IsNotes a source note ↔ note = coverageNotes a source := by
  rw [coverageNotes, objectPath_eq]
  constructor
  · rintro ⟨name, stem, component, cut, rfl⟩
    obtain rfl := isLastComponent_iff.mp component
    obtain rfl := isStem_iff.mp cut
    rfl
  · rintro rfl
    exact ⟨_, _, isLastComponent_iff.mpr rfl, isStem_iff.mpr rfl, rfl⟩

/-- The stem of a name that begins with its only dot is empty. -/
example : IsNotes { label := "//app:tests" } { path := "app/config/.profile", root := "src" }
    { path := "app/_objs/tests/.gcno" } :=
  isNotes_iff.mpr (by decide)

lemma IsNotes.liesIn {source note : Artifact} (h : IsNotes a source note) :
    LiesIn (objects a) note := by
  obtain ⟨name, stem, component, cut, rfl⟩ := h
  refine ⟨stem ++ ".gcno", ?_, rfl⟩
  rw [String.toList_append, List.mem_append]
  exact not_or.mpr ⟨cut.not_mem component.slash, by decide⟩

/-- Every source has its notes. -/
lemma forall₂_isNotes (sources : List Artifact) :
    List.Forall₂ (IsNotes a) sources (sources.map (coverageNotes a)) := by
  rw [List.forall₂_map_right_iff, List.forall₂_same]
  exact fun source _ => isNotes_iff.mpr rfl

variable (a)

/-! ## With and without coverage -/

/-- The files that coverage looks at if it is gathered. -/
def coveredFiles : InstrumentedFiles :=
  { instrumented := .ofList (sourcesOf a)
    metadata := .ofList ((sourcesOf a).map (coverageNotes a)) }

/-- The tool that gathers the coverage of a target. -/
def toolOf : CoverageTool := { tool := coverageGatherer, instrumentedSources := sourcesOf a }

lemma description_withCoverage :
    r.answers.description a { c with coverageEnabled := true } =
      let plain := r.answers.description a { c with coverageEnabled := false }
      { plain with
        capabilities := Keyed.set .instrumentedFiles
          (.capability (.instrumentedFiles (coveredFiles a))) plain.capabilities
        extras := plain.extras ++ [(toolOf a).toValue] } :=
  rfl

/-- A build makes the same steps with and without coverage, up to its last request. -/
lemma exists_trace_withCoverage : ∃ es, ∀ coverageEnabled,
    r.answers.trace a { c with coverageEnabled } =
      es ++ [.request (.testSupport a { c with coverageEnabled })] := by
  refine ⟨r.answers.checkedTrace a c ++ (r.answers.linkedTrace a c ++
    [.request (.resourceReport a), .report a.label (r.answers.resources a).diagnostics,
      .request (r.answers.projectRequest a c)]), fun coverageEnabled => ?_⟩
  rw [Answers.trace_eq_checked, List.append_assoc, List.append_assoc]
  rfl

/-- With and without coverage a build reports and logs the same. -/
lemma alike_withCoverage (p : Progress) :
    (Assembly.runFrom p (Assembly.assemble r.resolver a { c with coverageEnabled := true })).2.Alike
      (Assembly.runFrom p
        (Assembly.assemble r.resolver a { c with coverageEnabled := false })).2 := by
  obtain ⟨es, trace_eq⟩ := r.exists_trace_withCoverage a c
  have steps : (p.after (r.answers.trace a { c with coverageEnabled := true })).Alike
      (p.after (r.answers.trace a { c with coverageEnabled := false })) := by
    rw [trace_eq, trace_eq, Progress.after_append, Progress.after_append]
    exact ⟨rfl, rfl⟩
  -- the two descriptions have the same files, so that the same is noted at the end
  have files := congrArg Description.filesToBuild (r.description_withCoverage a c)
  rw [runFrom_assemble_eq, runFrom_assemble_eq, Assembly.closingNote_of_alike steps a files]
  exact steps.record a (Assembly.closingNote a _ _)

/-! ## Main result -/

/-- The build of a target for coverage ends with the description that it ends with otherwise, but
for the files that coverage looks at, of which there are none otherwise, and for one more extra
value, and it reports and logs the same.  The tool that is the extra value counts all sources of the
target, with repetitions; the files are the first occurrences of these sources and of their notes,
and all notes lie directly among the intermediate files of the target. -/
theorem coverage_exact :
    ∃ (plain covered : Description) (files : InstrumentedFiles) (notes : List Artifact)
      (tool : CoverageTool),
      (∀ p, ∃ q q',
        Assembly.runFrom p (Assembly.assemble r.resolver a { c with coverageEnabled := false }) =
          (.ok plain, q) ∧
        Assembly.runFrom p (Assembly.assemble r.resolver a { c with coverageEnabled := true }) =
          (.ok covered, q') ∧
        q'.ledger = q.ledger ∧ q'.log = q.log) ∧
      covered = { plain with
        capabilities := Keyed.set .instrumentedFiles (.capability (.instrumentedFiles files))
          plain.capabilities
        extras := plain.extras ++ [tool.toValue] } ∧
      (covered.executionInfo = plain.executionInfo ∧ covered.runfiles = plain.runfiles ∧
        covered.ideProject = plain.ideProject) ∧
      (plain.instrumentedFiles = some {} ∧ covered.instrumentedFiles = some files) ∧
      tool.instrumentedSources = (a.srcs ++ a.nonArcSrcs).map a.source ∧
      FirstSeen tool.instrumentedSources files.instrumented.toList ∧
      List.Forall₂ (IsNotes a) tool.instrumentedSources notes ∧
      FirstSeen notes files.metadata.toList ∧
      ∀ x ∈ files.metadata.toList, LiesIn (objects a) x := by
  have runs : ∀ p, ∃ q q',
      Assembly.runFrom p (Assembly.assemble r.resolver a { c with coverageEnabled := false }) =
        (.ok (r.answers.description a { c with coverageEnabled := false }), q) ∧
      Assembly.runFrom p (Assembly.assemble r.resolver a { c with coverageEnabled := true }) =
        (.ok (r.answers.description a { c with coverageEnabled := true }), q') ∧
      q'.ledger = q.ledger ∧ q'.log = q.log := by
    intro p
    have alike := r.alike_withCoverage a c p
    rw [runFrom_assemble_eq, runFrom_assemble_eq] at alike
    exact ⟨_, _, r.runFrom_assemble_eq a _ p, r.runFrom_assemble_eq a _ p, alike.ledger, alike.log⟩
  have counted : FirstSeen (toolOf a).instrumentedSources (coveredFiles a).instrumented.toList :=
    firstSeen_iff.mpr (ArtifactSet.toList_ofList _)
  have noted : FirstSeen ((sourcesOf a).map (coverageNotes a)) (coveredFiles a).metadata.toList :=
    firstSeen_iff.mpr (ArtifactSet.toList_ofList _)
  have placed : ∀ x ∈ (coveredFiles a).metadata.toList, LiesIn (objects a) x := by
    intro x hx
    obtain ⟨source, -, rfl⟩ := List.mem_map.mp ((noted.mem x).mp hx)
    exact (isNotes_iff.mpr rfl).liesIn
  exact ⟨_, _, coveredFiles a, _, toolOf a, runs, r.description_withCoverage a c, ⟨rfl, rfl, rfl⟩,
    ⟨rfl, rfl⟩, rfl, counted, forall₂_isNotes _, noted, placed⟩

end Registry

end TargetAssembly
