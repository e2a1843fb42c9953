import TargetAssembly.Proofs.Assembly.Outcome

/-!
# What a build reports

A build tells what is wrong with its target in two places: in the diagnostics of the target and, for
what it finds itself, in its log.  `reports_exact` says what it adds to both.  Nothing is lost,
repeated or put in another order, no other target is touched, and the last entry of the log counts
the errors that the diagnostics then hold.
-/

namespace TargetAssembly

namespace Answers

variable (f : Answers) (a : TestTarget) (c : Configuration)

/-! ## Diagnostics -/

/-- That nothing is compiled. -/
def noSources : Diagnostic :=
  { severity := .error
    message := "test target requires at least one source file."
    code := some "E_REQUIRES_SOURCE" }

/-- That several architectures are asked for. -/
def severalArchitectures : Diagnostic :=
  { severity := .error
    message := "test target cannot be built for multiple architectures at the same time."
    code := some "E_NO_MULTI_ARCH" }

/-- That a hosted unit test has no host. -/
def missingHost : Diagnostic :=
  { severity := .error
    message := "Hosted unit test has no resolvable host application."
    code := some "E_MISSING_HOST_APP" }

/-- What is wrong with a target before it is linked: its sources first, then its architectures, of
which two that differ are too many. -/
def invalid : List Diagnostic :=
  (if (f.common a c).hasArchive then [] else [noSources]) ++
    (if ∃ x ∈ c.multiCpus, ∃ y ∈ c.multiCpus, x ≠ y then [severalArchitectures] else [])

/-- What is reported in place of linking, and of packaging, or by them. -/
def linkDiagnostics : List Diagnostic :=
  if f.Hostless a then [missingHost]
  else (f.compilation a c (f.plan a)).diagnostics ++ (f.bundle a c (f.plan a)).diagnostics

/-- All that is reported about a target, in the order of the reports. -/
def diagnostics : List Diagnostic :=
  f.invalid a c ++ f.linkDiagnostics a c ++ (f.resources a).diagnostics

/-- The entry that tells of a diagnostic at a stage. -/
def errorEntry (stage : String) (d : Diagnostic) : LogEntry :=
  { level := .error
    operation := "assemble"
    target := some a.label
    stage := some stage
    message := d.message
    extra := [(.text "code", .ofText? d.code)] }

/-- The entries about errors, in the order of the log. -/
def errorEntries : List LogEntry :=
  (f.invalid a c).map (errorEntry a "validate") ++
    (if f.Hostless a then [errorEntry a "link" missingHost] else [])

/-- The entry that a stage went as it should. -/
def stageEntry (stage message : String) (extra : List (Value × Value) := []) : LogEntry :=
  { level := .info
    operation := "assemble"
    target := some a.label
    stage := some stage
    message
    extra }

/-- The entry about the mode of the build. -/
def modeEntry : LogEntry :=
  stageEntry a "classify"
    (if a.isHosted then "build mode is hosted_unit_test" else "build mode is application")

/-- The entry about the common library. -/
def commonEntry : LogEntry :=
  stageEntry a "common" "resolved common library"
    [(.text "has_archive", .bool (f.common a c).hasArchive)]

/-- The entry about how the target is linked. -/
def linkEntry : LogEntry :=
  stageEntry a "link" "derived link configuration"
    [(.text "args", .ofTexts (f.plan a).extraLinkArgs)]

/-- The entry about the bundle. -/
def bundleEntry : LogEntry :=
  stageEntry a "bundle" ("bundle directory is " ++ (f.bundle a c (f.plan a)).directory)

/-- The entries up to the validation of the target. -/
def checkedEntries : List LogEntry :=
  [modeEntry a, f.commonEntry a c] ++ (f.invalid a c).map (errorEntry a "validate")

/-- The entries about linking and packaging, or about the missing host. -/
def linkedEntries : List LogEntry :=
  if f.Hostless a then [errorEntry a "link" missingHost] else [f.linkEntry a, f.bundleEntry a c]

/-- All entries of a build before the last one, which tells what the build came to. -/
def entries : List LogEntry := f.checkedEntries a c ++ f.linkedEntries a c

/-! ## The problems that a build finds itself -/

lemma map_ofProblem_problems :
    (Validation.problems (f.common a c) c).map Diagnostic.ofProblem = f.invalid a c := by
  have several : c.architectures.length ≤ 1 ↔
      ¬ ∃ x ∈ c.multiCpus, ∃ y ∈ c.multiCpus, x ≠ y := by
    rw [Configuration.architectures]
    split_ifs with h
    · simp [List.isEmpty_iff.mp h]
    · rw [length_eraseDups_le_one_iff]
      simp
  rw [Validation.problems, Validation.missingSources, Validation.severalArchitectures, invalid,
    List.map_append]
  congr 1
  · split_ifs <;> rfl
  · by_cases h : c.architectures.length ≤ 1
    · rw [if_pos h, if_neg (several.mp h)]
      rfl
    · rw [if_neg h, if_pos (not_not.mp fun hn => h (several.mpr hn))]
      rfl

/-! ## The diagnostics among the steps -/

section

variable (label : String)

lemma diagnosticsAbout_hostTrace :
    (hostTrace a).flatMap (Event.diagnosticsAbout label) = [] := by
  rw [hostTrace, mode_eq]
  split_ifs <;> rfl

lemma diagnosticsAbout_commonTrace :
    (f.commonTrace a c).flatMap (Event.diagnosticsAbout label) = [] := by
  rw [commonTrace, librariesTrace]
  split_ifs <;> rfl

lemma diagnosticsAbout_problemsTrace (stage : String) (ps : List Problem) :
    (problemsTrace a stage ps).flatMap (Event.diagnosticsAbout label) =
      if a.label = label then ps.map Diagnostic.ofProblem else [] := by
  have notes :
      (Event.problemNotes a.label stage ps).flatMap (Event.diagnosticsAbout label) = [] := by
    simp [Event.problemNotes, List.flatMap_map, Event.diagnosticsAbout]
  rw [problemsTrace, List.flatMap_append, notes, List.append_nil, Event.problemReports,
    List.flatMap_map]
  split_ifs with h
  · simp [Event.diagnosticsAbout, h, List.map_eq_flatMap]
  · simp [Event.diagnosticsAbout, h]

lemma diagnosticsAbout_linkedTrace :
    (f.linkedTrace a c).flatMap (Event.diagnosticsAbout label) =
      if a.label = label then f.linkDiagnostics a c else [] := by
  rw [linkedTrace, linkTrace, link_eq, linkDiagnostics, List.flatMap_append]
  by_cases hostless : f.Hostless a
  · simp only [if_pos hostless, diagnosticsAbout_problemsTrace]
    exact List.append_nil _
  · simp only [if_neg hostless]
    -- two of the steps are reports
    split_ifs with h <;> simp [bundleTrace, Event.noted, Event.diagnosticsAbout, h]

/-- The steps report the diagnostics of the target, and nothing about other targets. -/
lemma diagnosticsAbout_trace :
    (f.trace a c).flatMap (Event.diagnosticsAbout label) =
      if a.label = label then f.diagnostics a c else [] := by
  rw [trace, diagnostics]
  simp only [List.flatMap_append, diagnosticsAbout_hostTrace, diagnosticsAbout_commonTrace,
    diagnosticsAbout_problemsTrace, map_ofProblem_problems, diagnosticsAbout_linkedTrace]
  split_ifs with h <;> simp [Event.noted, Event.diagnosticsAbout, h]

end

/-! ## The entries among the steps -/

lemma entries_problemsTrace (stage : String) (ps : List Problem) :
    (problemsTrace a stage ps).flatMap Event.entries =
      (ps.map Diagnostic.ofProblem).map (errorEntry a stage) := by
  have reports : (Event.problemReports a.label ps).flatMap Event.entries = [] := by
    simp [Event.problemReports, List.flatMap_map, Event.entries]
  rw [problemsTrace, List.flatMap_append, reports, List.nil_append, Event.problemNotes,
    List.flatMap_map, List.map_map, List.map_eq_flatMap]
  rfl

lemma entries_hostTrace : (hostTrace a).flatMap Event.entries = [] := by
  rw [hostTrace, mode_eq]
  split_ifs <;> rfl

lemma entries_commonTrace : (f.commonTrace a c).flatMap Event.entries = [f.commonEntry a c] := by
  rw [commonTrace, librariesTrace]
  split_ifs <;> rfl

lemma entries_linkedTrace : (f.linkedTrace a c).flatMap Event.entries = f.linkedEntries a c := by
  rw [linkedTrace, linkTrace, link_eq, linkedEntries, List.flatMap_append]
  split_ifs
  · rw [entries_problemsTrace]
    rfl
  · rfl

lemma entries_trace : (f.trace a c).flatMap Event.entries = f.entries a c := by
  have first : [Event.noted a.label "classify" ("build mode is " ++ a.mode.text)].flatMap
      Event.entries = [modeEntry a] := by
    rw [modeEntry, mode_eq]
    split_ifs <;> rfl
  have last : [Event.request (.resourceReport a), .report a.label (f.resources a).diagnostics,
      .request (f.projectRequest a c), .request (.testSupport a c)].flatMap Event.entries = [] :=
    rfl
  rw [trace, entries, checkedEntries]
  simp only [List.flatMap_append, first, entries_hostTrace, entries_commonTrace,
    entries_problemsTrace, map_ofProblem_problems, entries_linkedTrace, last]
  simp only [List.nil_append, List.append_nil, List.cons_append]

/-- The entries about errors that steps add to the log. -/
def errorsLogged (es : List Event) : List LogEntry :=
  (es.flatMap Event.entries).filter (·.level = .error)

lemma errorsLogged_trace : errorsLogged (f.trace a c) = f.errorEntries a c := by
  have all : ∀ stage (ds : List Diagnostic),
      (ds.map (errorEntry a stage)).filter (fun e => e.level = .error) =
        ds.map (errorEntry a stage) := by
    intro stage ds
    rw [List.filter_eq_self]
    intro e he
    obtain ⟨d, -, rfl⟩ := List.mem_map.mp he
    rfl
  have checked : (f.checkedEntries a c).filter (fun e => e.level = .error) =
      (f.invalid a c).map (errorEntry a "validate") := by
    rw [checkedEntries, List.filter_append, all]
    rfl
  rw [errorsLogged, entries_trace, entries, errorEntries, List.filter_append, checked,
    linkedEntries]
  split_ifs <;> rfl

end Answers

namespace Assembly

open Resolver (answering)

/-- A build whose requests are answered by capabilities of the right kinds ends with a description.
To what was reported about the target before it adds the diagnostics of validation, of linking and
packaging or of the missing host, and of the resources; nothing is reported about other targets.
The entries about errors that it adds to the log are those of validation and of the missing host,
and its last entry counts the errors that are then reported about the target. -/
theorem reports_exact (f : Answers) (a : TestTarget) (c : Configuration) (p : Progress)
    {info : ProjectInfo} {files : Runfiles} {covered : InstrumentedFiles}
    (hx : (f.project a c).project = .capability (.ideProject info))
    (hy : (f.tests a c).runfiles = .capability (.runfiles files))
    (hz : (f.tests a c).instrumented = .capability (.instrumentedFiles covered)) :
    ∃ d q, runFrom p (assemble (answering f) a c) = (.ok d, q) ∧
      q.ledger.about a.label = p.ledger.about a.label ++ f.diagnostics a c ∧
      (∀ label ≠ a.label, q.ledger.about label = p.ledger.about label) ∧
      ∃ added, q.log.entries = p.log.entries ++ added ∧
        added.filter (·.level = .error) = f.errorEntries a c ∧
        added.getLast? = some (.info "assemble" (some a.label) (some "aggregate")
          "assembled target description"
          [(.text "files", .int d.filesToBuild.size),
            (.text "errors",
              .int ((q.ledger.about a.label).filter (·.severity = .error)).length)]) := by
  have described : ∃ d, (runFrom p (assemble (answering f) a c)).1 = .ok d := by
    rcases assemble_cases f a c p hx hy hz with ⟨-, d, h, -⟩ | ⟨same, -⟩
    · exact ⟨d, h⟩
    · exact absurd (by simp [Capability.kind]) same
  obtain ⟨d, hd⟩ := described
  rw [runFrom_assemble, runFrom_conclude_fst] at hd
  rw [runFrom_assemble, runFrom_conclude, hd]
  -- the last note leaves the diagnostics as they are after the other steps
  refine ⟨d, _, rfl, ?_, fun label other => ?_, (f.trace a c).flatMap Event.entries ++ [_], ?_, ?_,
    List.getLast?_concat⟩
  · change (p.after (f.trace a c)).ledger.about a.label = _
    rw [Progress.about_after, f.diagnosticsAbout_trace, if_pos rfl]
  · change (p.after (f.trace a c)).ledger.about label = _
    rw [Progress.about_after, f.diagnosticsAbout_trace, if_neg other.symm, List.append_nil]
  · rw [← List.append_assoc, ← Progress.entries_after]
    rfl
  · rw [List.filter_append, ← f.errorsLogged_trace]
    exact List.append_nil _

/-- Answers without a host and without an archive. -/
def hostlessAnswers : Answers
  | .hostApp _ => none
  | .memleaksLibrary _ => {}
  | .commonLibrary .. => { hasArchive := false, library := {} }
  | .compilation .. => {}
  | .bundle .. => { directory := "Payload/tests.xctest" }
  | .resourceReport _ => { diagnostics := [{ severity := ⟨"warning"⟩, message := "unused" }] }
  | .projectExport .. =>
    { project := .capability (.ideProject { label := "//app:tests", productType := .unitTest }) }
  | .testSupport .. =>
    { executable := none
      runfiles := .capability (.runfiles { workspaceName := "main" })
      instrumented := .capability (.instrumentedFiles {}) }

/-- A hosted unit test without sources and host, for two architectures, has three errors. -/
theorem reports_hostlessAnswers :
    ∃ d q, runFrom {} (assemble (answering hostlessAnswers)
        { label := "//app:tests", isHosted := true } { multiCpus := ["i386", "x86_64"] }) =
          (.ok d, q) ∧
      q.ledger.about "//app:tests" = [Answers.noSources, Answers.severalArchitectures,
        Answers.missingHost, { severity := ⟨"warning"⟩, message := "unused" }] := by
  obtain ⟨d, q, run, reported, -⟩ := reports_exact hostlessAnswers
    { label := "//app:tests", isHosted := true } { multiCpus := ["i386", "x86_64"] } {} rfl rfl rfl
  refine ⟨d, q, run, reported.trans ?_⟩
  decide

end Assembly

end TargetAssembly
