import TargetAssembly.Proofs.Assembly.Stages
import TargetAssembly.Proofs.Contribution.Merging

/-!
# What a build asks for and what it comes to

`assemble_exact` says what a build comes to whose requests are answered, and `requests_exact` which
requests it makes.
-/

namespace TargetAssembly

/-!
## What a build comes to

A build whose requests are answered fails only in the merge, and there only if two of the four
capabilities that it is given or makes itself are of one kind.  `assemble_exact` says this, and what
the description is otherwise: the files of all stages in their order, each once, and under the four
kinds the four capabilities.
-/

namespace Answers

variable (f : Answers) (a : TestTarget) (c : Configuration)

/-- The files of linking and packaging under their sources, the package of the host before them. -/
def linkedFiles : List (String × List Artifact) :=
  match f.link a with
  | some l => ((f.host a).map fun h => ("host_app", [h.ipa])).toList ++
      [("compile_and_link", (f.compilation a c l).files),
        ("release_bundling", (f.bundle a c l).files)]
  | none => []

/-- The files of a build, stage by stage. -/
def files : List Artifact :=
  ResourceArchive.all a (f.common a c).library ++ ((f.linkedFiles a c).flatMap Prod.snd ++
    ((f.project a c).files ++ (f.tests a c).files))

/-- What a build is given or makes itself as capabilities: three answers, and how the target is to
be run. -/
def supplies : List Supply :=
  [(f.project a c).project, (f.tests a c).runfiles, (f.tests a c).instrumented,
    .capability (.executionInfo { requirements := [("requires-darwin", "")] })]

/-- A description is what a build comes to: under every kind stands the one supply of that kind. -/
structure Yields (d : Description) : Prop where
  label : d.label = a.label
  files : d.filesToBuild.toList = (f.files a c).eraseDups
  kinds : d.kinds = (f.supplies a c).filterMap Supply.kind?
  capability : ∀ k s, d.capabilities.lookup k = some s ↔ s ∈ f.supplies a c ∧ s.kind? = some k
  extras : d.extras = (f.tests a c).extras
  executable : d.executable = (f.tests a c).executable

/-! ### The contributions of a build -/

lemma contributions_linked :
    (f.linked a c).contributions =
      (f.linkedFiles a c).map fun e => Assembly.filesFrom e.1 e.2 := by
  rw [linked, linkedFiles]
  cases f.link a with
  | none => rfl
  | some l => cases f.host a <;> rfl

lemma supplies_contributions :
    (f.contributions a c).flatMap (·.capabilities) = f.supplies a c := by
  rw [contributions, contributions_linked]
  simp [Assembly.filesFrom, Assembly.fromProject, Assembly.fromTests, Assembly.fromExecution,
    Assembly.executionInfo, supplies, List.flatMap_map]

lemma extras_contributions :
    (f.contributions a c).flatMap (·.extras) = (f.tests a c).extras := by
  rw [contributions, contributions_linked]
  simp [Assembly.filesFrom, Assembly.fromProject, Assembly.fromTests, Assembly.fromExecution,
    List.flatMap_map]

lemma executables_contributions :
    (f.contributions a c).filterMap (·.executable) = (f.tests a c).executable.toList := by
  rw [contributions, contributions_linked]
  cases h : (f.tests a c).executable <;>
    simp [Assembly.filesFrom, Assembly.fromProject, Assembly.fromTests, Assembly.fromExecution,
      List.filterMap_map, h]

/-- The files of all contributions, each of which lists its own once, are those of the build. -/
lemma files_contributions :
    ((f.contributions a c).flatMap (·.files.toList)).eraseDups = (f.files a c).eraseDups := by
  -- every contribution holds a flat list, which its set keeps without repetitions
  have lists : (f.contributions a c).flatMap (·.files.toList) =
      (ResourceArchive.all a (f.common a c).library :: ((f.linkedFiles a c).map Prod.snd ++
        [(f.project a c).files, (f.tests a c).files])).flatMap fun l => l.eraseDups := by
    rw [contributions, contributions_linked]
    simp [Assembly.filesFrom, Assembly.fromProject, Assembly.fromTests, Assembly.fromExecution,
      ArtifactSet.toList_ofList, ArtifactSet.toList_empty, List.flatMap_map]
  rw [lists, eraseDups_flatMap_eraseDups, files]
  simp [List.flatMap_map]

lemma yields_of_isUnion {d : Description}
    (h : Contribution.IsUnion a.label (f.contributions a c) d) : f.Yields a c d := by
  refine ⟨h.label, ?_, ?_, ?_, ?_, ?_⟩
  · rw [h.files, files_contributions]
  · rw [h.kinds, supplies_contributions]
  · rw [← supplies_contributions]
    exact h.capability
  · rw [h.extras, extras_contributions]
  · have same : d.executable.toList = (f.tests a c).executable.toList := by
      rw [h.executable, executables_contributions]
    simpa using congrArg List.head? same

lemma suppliesTwice_contributions {x y z : Capability}
    (hx : (f.project a c).project = .capability x) (hy : (f.tests a c).runfiles = .capability y)
    (hz : (f.tests a c).instrumented = .capability z) :
    Contribution.SuppliesTwice (f.contributions a c) ↔
      ¬ [x.kind, y.kind, z.kind, .executionInfo].Nodup := by
  have kinds : (f.supplies a c).filterMap Supply.kind? =
      [x.kind, y.kind, z.kind, .executionInfo] := by
    rw [supplies, hx, hy, hz]
    rfl
  -- one stage alone brings a program, so only kinds can be supplied twice
  have atMostOne : ¬ 1 < (f.tests a c).executable.toList.length := by
    cases (f.tests a c).executable <;> simp
  rw [Contribution.SuppliesTwice, supplies_contributions, executables_contributions, kinds,
    List.nodup_iff_count_le_one, or_iff_left atMostOne]
  simp only [not_forall, Nat.not_le]

end Answers

namespace Assembly

open Resolver (answering)

/-- The note that ends a build: how many files the description has, and how many errors are
reported. -/
def closingNote (a : TestTarget) (d : Description) (p : Progress) : Event :=
  .noted a.label "aggregate" "assembled target description"
    [("files", .int d.filesToBuild.size), ("errors", .int (p.ledger.errorsAbout a.label).length)]

/-- A build ends with the note of what it came to, or stops in the merge, which makes no
progress. -/
lemma runFrom_conclude (p : Progress) (a : TestTarget) (cs : List Contribution) :
    runFrom p (conclude a cs) = match (runFrom p (merge a.label cs)).1 with
      | .ok d => (.ok d, p.record (closingNote a d p))
      | .error e => (.error e, p) := by
  rw [conclude, runFrom_bind, Contribution.runFrom_merge]
  rcases (Contribution.mergeAll a.label cs).mapError _ with e | d <;> rfl

lemma runFrom_conclude_fst (p : Progress) (a : TestTarget) (cs : List Contribution) :
    (runFrom p (conclude a cs)).1 = (runFrom p (merge a.label cs)).1 := by
  rw [runFrom_conclude]
  cases (runFrom p (merge a.label cs)).1 <;> rfl

/-- The kinds of all contributions are known, so a build ends with a description or a conflict. -/
lemma assemble_cases (f : Answers) (a : TestTarget) (c : Configuration) (p : Progress)
    {x y z : Capability} (hx : (f.project a c).project = .capability x)
    (hy : (f.tests a c).runfiles = .capability y)
    (hz : (f.tests a c).instrumented = .capability z) :
    ([x.kind, y.kind, z.kind, .executionInfo].Nodup ∧
        ∃ d, (runFrom p (assemble (answering f) a c)).1 = .ok d ∧ f.Yields a c d) ∨
      (¬ [x.kind, y.kind, z.kind, .executionInfo].Nodup ∧
        ∃ problem, (runFrom p (assemble (answering f) a c)).1 = .error (.problem problem) ∧
          problem.kind = .internalConsistency) := by
  have kinded : ∀ b ∈ f.contributions a c, ∀ s ∈ b.capabilities, ∃ k, s.kind? = some k := by
    intro b hb s hs
    have mem : s ∈ f.supplies a c := by
      rw [← Answers.supplies_contributions]
      exact List.mem_flatMap.mpr ⟨b, hb, hs⟩
    rw [Answers.supplies, hx, hy, hz] at mem
    simp only [List.mem_cons, List.not_mem_nil, or_false] at mem
    rcases mem with rfl | rfl | rfl | rfl <;> exact ⟨_, rfl⟩
  have twice := f.suppliesTwice_contributions a c hx hy hz
  rw [runFrom_assemble, runFrom_conclude_fst, Contribution.runFrom_merge]
  rcases Contribution.mergeAll_cases a.label kinded with
    ⟨nodup, run⟩ | ⟨item, first, second, conflict, run⟩
  · have once : ¬ Contribution.SuppliesTwice (f.contributions a c) :=
      fun h => (Contribution.not_nodup_claims_iff _).mpr h nodup
    refine Or.inl ⟨not_not.mp fun h => once (twice.mpr h), _, ?_,
      f.yields_of_isUnion a c (Contribution.isUnion_union once a.label)⟩
    rw [run]
    rfl
  · refine Or.inr ⟨twice.mp ((Contribution.not_nodup_claims_iff _).mp conflict.not_nodup), ?_⟩
    rw [run]
    exact ⟨_, rfl, rfl⟩

/-! ### Main result -/

/-- A build whose requests are answered, where the answers supply capabilities of any kinds, ends
with the description of all that the stages contribute, unless two of the four capabilities are of
one kind; then it raises that the parts of the build contradict each other.  Where each answer is of
the kind that is asked for it always ends with a description, and this offers just what was
answered. -/
theorem assemble_exact (f : Answers) (a : TestTarget) (c : Configuration) (p : Progress)
    {x y z : Capability} (hx : (f.project a c).project = .capability x)
    (hy : (f.tests a c).runfiles = .capability y)
    (hz : (f.tests a c).instrumented = .capability z) :
    ([x.kind, y.kind, z.kind, .executionInfo].Nodup →
        ∃ d, (runFrom p (assemble (answering f) a c)).1 = .ok d ∧ f.Yields a c d) ∧
      ((∃ problem, (runFrom p (assemble (answering f) a c)).1 = .error (.problem problem) ∧
          problem.kind = .internalConsistency) ↔
        ¬ [x.kind, y.kind, z.kind, .executionInfo].Nodup) ∧
      (∀ info files covered, x = .ideProject info → y = .runfiles files →
        z = .instrumentedFiles covered →
        ∃ d, (runFrom p (assemble (answering f) a c)).1 = .ok d ∧ f.Yields a c d ∧
          d.ideProject = some info ∧ d.runfiles = some files ∧
          d.instrumentedFiles = some covered ∧
          d.executionInfo = some { requirements := [("requires-darwin", "")] }) := by
  refine ⟨?_, ⟨?_, ?_⟩, ?_⟩
  · intro distinct
    rcases assemble_cases f a c p hx hy hz with ⟨-, h⟩ | ⟨same, -⟩
    · exact h
    · exact absurd distinct same
  · rintro ⟨problem, raised, -⟩
    rcases assemble_cases f a c p hx hy hz with ⟨-, d, h, -⟩ | ⟨same, -⟩
    · rw [h] at raised
      cases raised
    · exact same
  · intro same
    rcases assemble_cases f a c p hx hy hz with ⟨distinct, -⟩ | ⟨-, h⟩
    · exact absurd distinct same
    · exact h
  · rintro info files covered rfl rfl rfl
    rcases assemble_cases f a c p hx hy hz with ⟨-, d, h, yields⟩ | ⟨same, -⟩
    · refine ⟨d, h, yields, ?_, ?_, ?_, ?_⟩
      · rw [Description.ideProject_eq_some_iff, yields.capability]
        exact ⟨by simp [Answers.supplies, hx], rfl⟩
      · rw [Description.runfiles_eq_some_iff, yields.capability]
        exact ⟨by simp [Answers.supplies, hy], rfl⟩
      · rw [Description.instrumentedFiles_eq_some_iff, yields.capability]
        exact ⟨by simp [Answers.supplies, hz], rfl⟩
      · rw [Description.executionInfo_eq_some_iff, yields.capability]
        exact ⟨by simp [Answers.supplies], rfl⟩
    · exact absurd (by simp [Capability.kind]) same

/-- A program that is linked. -/
def linkedProgram : Artifact := { path := "app/tests_bin" }

/-- Answers in which the program that is linked is also among the files for running it. -/
def plainAnswers : Answers
  | .hostApp _ => none
  | .memleaksLibrary _ => {}
  | .commonLibrary .. => { hasArchive := true, library := {} }
  | .compilation .. => { files := [linkedProgram] }
  | .bundle .. => { directory := "Payload/tests.app" }
  | .resourceReport _ => {}
  | .projectExport .. =>
    { project := .capability (.ideProject { label := "//app:tests", productType := .application }) }
  | .testSupport .. =>
    { executable := some linkedProgram
      files := [linkedProgram]
      runfiles := .capability (.runfiles { workspaceName := "main" })
      instrumented := .capability (.instrumentedFiles {}) }

/-- A target with plain answers has a description, whose files hold the program once. -/
theorem assemble_plainAnswers :
    ∃ d, (runFrom {} (assemble (answering plainAnswers) { label := "//app:tests" } {})).1 = .ok d ∧
      plainAnswers.Yields { label := "//app:tests" } {} d ∧
      d.runfiles = some { workspaceName := "main" } ∧ d.filesToBuild.toList = [linkedProgram] := by
  obtain ⟨d, run, yields, -, runfiles, -⟩ :=
    (assemble_exact plainAnswers { label := "//app:tests" } {} {} rfl rfl rfl).2.2 _ _ _ rfl rfl rfl
  refine ⟨d, run, yields, runfiles, ?_⟩
  rw [yields.files]
  decide

end Assembly

/-!
## Which requests a build makes

A build makes its requests in a fixed order, each at most once, and hands on what earlier answers
brought.  `requests_exact` lists them: which of them are made depends on whether the target is a
hosted unit test, whether its host is found and whether leaks are looked for, and all that they hand
over is taken from the target, from the configuration and from the answers before them.
-/

namespace Answers

variable (f : Answers) (a : TestTarget) (c : Configuration)

/-! ### The requests in their order -/

/-- A hosted unit test whose host is not found; it is neither linked nor packaged. -/
def Hostless : Prop := a.isHosted = true ∧ f (.hostApp a) = none

instance : Decidable (f.Hostless a) :=
  decidable_of_iff (a.isHosted = true ∧ (f (.hostApp a)).isNone = true) (by simp [Hostless])

/-- How a target that is linked is linked: against its host, if it has one. -/
def plan : LinkPlan := (f.host a).elim .forApplication .forHost

/-- The requests for linking and packaging, both with the same plan. -/
def linkRequests : List Request :=
  if f.Hostless a then []
  else [
    .compilation a (f.common a c).library (f.plan a) (f.plan a).extraLinkInputs .test,
    .bundle a (f.common a c).library (f.plan a) (f.plan a).bundleFormat c.minimumOs .test]

/-- The settings that the answers bring: those of linking and packaging, if this is done, and then
those of the resources. -/
def settings : Settings :=
  (if f.Hostless a then []
    else (f.compilation a c (f.plan a)).settings ++ (f.bundle a c (f.plan a)).settings) ++
  (f.resources a).settings

/-- All requests, in the order in which they are made. -/
def requests : List Request :=
  (if a.isHosted then [.hostApp a] else []) ++
  (if c.runMemleaks then [.memleaksLibrary a] else []) ++
  [.commonLibrary a (if a.isHosted then ["XCTest"] else [])
    (((f.host a).map (·.library)).toList ++
      (if c.runMemleaks then [f (.memleaksLibrary a)] else []))] ++
  f.linkRequests a c ++
  [.resourceReport a,
    .projectExport a (f.common a c).library (if a.isHosted then .unitTest else .application)
      (f.settings a c).eraseDups ((f.host a).bind fun h => h.project.map (·.label)),
    .testSupport a c]

/-! ### The requests among the steps -/

lemma mode_eq : a.mode = if a.isHosted then .hostedUnitTest else .application := rfl

lemma productType_eq : a.mode.productType = if a.isHosted then .unitTest else .application := by
  rw [mode_eq]
  split_ifs <;> rfl

lemma sdkFrameworks_eq : a.mode.sdkFrameworks = if a.isHosted then ["XCTest"] else [] := by
  rw [mode_eq]
  split_ifs <;> rfl

lemma link_eq : f.link a = if f.Hostless a then none else some (f.plan a) := by
  rw [link, plan, host, mode_eq]
  cases hosted : a.isHosted with
  | false => simp [Hostless, hosted]
  | true =>
    cases found : f (.hostApp a) <;> simp [Hostless, hosted, found]

lemma settings_eq : (f.linked a c).settings ++ (f.resources a).settings = f.settings a c := by
  rw [linked, settings, link_eq]
  split_ifs <;> rfl

lemma projectRequest_eq :
    f.projectRequest a c =
      .projectExport a (f.common a c).library (if a.isHosted then .unitTest else .application)
        (f.settings a c).eraseDups ((f.host a).bind fun h => h.project.map (·.label)) := by
  rw [projectRequest, productType_eq, settings_eq]

lemma requests_hostTrace :
    (hostTrace a).flatMap Event.requests = if a.isHosted then [.hostApp a] else [] := by
  rw [hostTrace, mode_eq]
  split_ifs <;> rfl

lemma requests_commonTrace :
    (f.commonTrace a c).flatMap Event.requests =
      (if c.runMemleaks then [.memleaksLibrary a] else []) ++
        [.commonLibrary a (if a.isHosted then ["XCTest"] else [])
          (((f.host a).map (·.library)).toList ++
            (if c.runMemleaks then [f (.memleaksLibrary a)] else []))] := by
  rw [commonTrace, librariesTrace, sdkFrameworks_eq, libraries, List.flatMap_append]
  congr 1
  split_ifs <;> rfl

lemma requests_problemsTrace (stage : String) (ps : List Problem) :
    (problemsTrace a stage ps).flatMap Event.requests = [] := by
  simp [problemsTrace, Event.problemReports, Event.problemNotes, List.flatMap_map, Event.requests]

lemma requests_linkedTrace :
    (f.linkedTrace a c).flatMap Event.requests = f.linkRequests a c := by
  rw [linkedTrace, linkTrace, link_eq, linkRequests, List.flatMap_append]
  split_ifs
  · simp [requests_problemsTrace]
  · rfl

lemma requests_trace : (f.trace a c).flatMap Event.requests = f.requests a c := by
  have last : [Event.request (.resourceReport a), .report a.label (f.resources a).diagnostics,
      .request (f.projectRequest a c), .request (.testSupport a c)].flatMap Event.requests =
      [.resourceReport a, f.projectRequest a c, .testSupport a c] := rfl
  have first : [Event.noted a.label "classify" ("build mode is " ++ a.mode.text)].flatMap
      Event.requests = [] := rfl
  rw [trace, requests, ← projectRequest_eq]
  simp only [List.flatMap_append, first, last, requests_hostTrace, requests_commonTrace,
    requests_problemsTrace, requests_linkedTrace, List.nil_append, List.append_assoc]

/-- The requests are of the operations in their order, each at most once. -/
lemma operations_requests : ((f.requests a c).map Request.operation).Sublist Operation.all := by
  have made : (f.requests a c).map Request.operation =
      (if a.isHosted then [.hostApp] else []) ++
        (if c.runMemleaks then [.memleaksLibrary] else []) ++ [.commonLibrary] ++
        (if f.Hostless a then [] else [.compilation, .bundle]) ++
        [.resourceReport, .projectExport, .testSupport] := by
    rw [requests, linkRequests]
    split_ifs <;> rfl
  rw [made]
  split_ifs <;> decide

end Answers

namespace Assembly

open Resolver (answering)

/-- A build whose requests are answered makes the listed requests, in this order and no others,
whatever was done before; none is for an operation that was asked for already. -/
theorem requests_exact (f : Answers) (a : TestTarget) (c : Configuration) (p : Progress) :
    (runFrom p (assemble (answering f) a c)).2.requests = p.requests ++ f.requests a c ∧
      ((f.requests a c).map Request.operation).Sublist Operation.all := by
  refine ⟨?_, f.operations_requests a c⟩
  have concluded : ∀ q, (runFrom q (conclude a (f.contributions a c))).2.requests = q.requests := by
    intro q
    rw [runFrom_conclude]
    cases (runFrom q (merge a.label (f.contributions a c))).1 <;> rfl
  rw [runFrom_assemble, concluded, Progress.requests_after, f.requests_trace]

end Assembly

end TargetAssembly
