import Mathlib.Data.List.Basic
import Mathlib.Data.List.Infix
import TargetAssembly.Proofs.Assembly.Reports

/-!
# What a build that stops leaves behind

A build stops at the first request that is answered by a fault, whatever the fault is, or in the
merge.  It raises that fault, and its progress is that of the build with all requests answered up to
there: `interruption_exact` says which requests, diagnostics and entries these are.  The table of
what stands before each operation, `diagnosticsBefore` and `entriesBefore`, follows the stages; a
fault leaves no trace of its own in it, so only the missing host that a build finds itself is
reported.
-/

namespace TargetAssembly

/-- Progress that a build has made on its way to other progress: what it has is how the other
begins. -/
structure Progress.Precedes (p q : Progress) : Prop where
  requests : p.requests <+: q.requests
  about : ∀ label, p.ledger.about label <+: q.ledger.about label
  entries : p.log.entries <+: q.log.entries

lemma Progress.Precedes.trans {p q s : Progress} (hpq : p.Precedes q) (hqs : q.Precedes s) :
    p.Precedes s where
  requests := hpq.requests.trans hqs.requests
  about label := (hpq.about label).trans (hqs.about label)
  entries := hpq.entries.trans hqs.entries

lemma Progress.precedes_after (p : Progress) {es fs : List Event} (h : es <+: fs) :
    (p.after es).Precedes (p.after fs) where
  requests := by
    rw [requests_after, requests_after, List.prefix_append_right_inj]
    exact h.flatMap _
  about label := by
    rw [about_after, about_after, List.prefix_append_right_inj]
    exact h.flatMap _
  entries := by
    rw [entries_after, entries_after, List.prefix_append_right_inj]
    exact h.flatMap _

namespace Answers

variable (f : Answers) (a : TestTarget) (c : Configuration)

/-! ## What is done before each operation -/

/-- The diagnostics that are reported before an operation is asked for. -/
def diagnosticsBefore : Operation → List Diagnostic
  | .hostApp | .memleaksLibrary | .commonLibrary => []
  | .compilation => f.invalid a c
  | .bundle => f.invalid a c ++ (f.compilation a c (f.plan a)).diagnostics
  | .resourceReport => f.invalid a c ++ f.linkDiagnostics a c
  | .projectExport | .testSupport => f.diagnostics a c

/-- The entries that are added to the log before an operation is asked for. -/
def entriesBefore : Operation → List LogEntry
  | .hostApp | .memleaksLibrary | .commonLibrary => [modeEntry a]
  | .compilation | .bundle => f.checkedEntries a c ++ [f.linkEntry a]
  | .resourceReport | .projectExport | .testSupport => f.entries a c

/-! ## The steps before each operation -/

/-- The steps before the common library and before the libraries that it takes in. -/
def openTrace : List Event :=
  .noted a.label "classify" ("build mode is " ++ a.mode.text) :: hostTrace a

/-- The steps up to the validation of the target. -/
def checkedTrace : List Event :=
  openTrace a ++ (f.commonTrace a c ++
    problemsTrace a "validate" (Validation.problems (f.common a c) c))

/-- The steps after linking and packaging. -/
def lastTrace : List Event :=
  [.request (.resourceReport a), .report a.label (f.resources a).diagnostics,
    .request (f.projectRequest a c), .request (.testSupport a c)]

lemma diagnosticsAbout_openTrace (label : String) :
    (openTrace a).flatMap (Event.diagnosticsAbout label) = [] := by
  rw [openTrace, hostTrace, mode_eq]
  split_ifs <;> rfl

lemma entries_openTrace : (openTrace a).flatMap Event.entries = [modeEntry a] := by
  rw [openTrace, hostTrace, mode_eq, modeEntry]
  split_ifs <;> rfl

lemma diagnosticsAbout_checkedTrace (label : String) :
    (f.checkedTrace a c).flatMap (Event.diagnosticsAbout label) =
      if a.label = label then f.invalid a c else [] := by
  rw [checkedTrace]
  simp only [List.flatMap_append, diagnosticsAbout_openTrace, diagnosticsAbout_commonTrace,
    diagnosticsAbout_problemsTrace, map_ofProblem_problems]
  rfl

lemma entries_checkedTrace :
    (f.checkedTrace a c).flatMap Event.entries = f.checkedEntries a c := by
  rw [checkedTrace, checkedEntries]
  simp only [List.flatMap_append, entries_openTrace, entries_commonTrace, entries_problemsTrace,
    map_ofProblem_problems]
  rfl

lemma trace_eq_open :
    f.trace a c = openTrace a ++ (f.commonTrace a c ++
      (problemsTrace a "validate" (Validation.problems (f.common a c) c) ++
        (f.linkedTrace a c ++ f.lastTrace a c))) :=
  rfl

lemma trace_eq_checked :
    f.trace a c = f.checkedTrace a c ++ (f.linkedTrace a c ++ f.lastTrace a c) := by
  rw [trace_eq_open, checkedTrace]
  simp only [List.append_assoc]

lemma commonRequest_eq :
    Request.commonLibrary a a.mode.sdkFrameworks (f.libraries a c) =
      .commonLibrary a (if a.isHosted then ["XCTest"] else [])
        (((f.host a).map (·.library)).toList ++
          (if c.runMemleaks then [f (.memleaksLibrary a)] else [])) := by
  rw [libraries, mode_eq]
  split_ifs <;> rfl

/-- The table holds for an operation and some steps before it. -/
structure Before (o : Operation) (made : List Event) : Prop where
  diagnostics : ∀ label, made.flatMap (Event.diagnosticsAbout label) =
    if a.label = label then f.diagnosticsBefore a c o else []
  entries : made.flatMap Event.entries = f.entriesBefore a c o

section

variable {f a}

lemma linkTrace_of_linked (linked : ¬ f.Hostless a) :
    f.linkTrace a = [.noted a.label "link" "derived link configuration"
      [("args", .ofTexts (f.plan a).extraLinkArgs)]] := by
  rw [linkTrace, link_eq, if_neg linked]

lemma linkedTrace_of_linked (linked : ¬ f.Hostless a) :
    f.linkedTrace a c = f.linkTrace a ++ f.bundleTrace a c (f.plan a) := by
  rw [linkedTrace, link_eq, if_neg linked]
  rfl

lemma before_compilation (linked : ¬ f.Hostless a) :
    f.Before a c .compilation (f.checkedTrace a c ++ f.linkTrace a) where
  diagnostics label := by
    rw [List.flatMap_append, diagnosticsAbout_checkedTrace, linkTrace_of_linked linked]
    exact List.append_nil _
  entries := by
    rw [List.flatMap_append, entries_checkedTrace, linkTrace_of_linked linked]
    rfl

lemma before_bundle (linked : ¬ f.Hostless a) :
    f.Before a c .bundle (f.checkedTrace a c ++ (f.linkTrace a ++
      [.request (.compilation a (f.common a c).library (f.plan a) (f.plan a).extraLinkInputs .test),
        .report a.label (f.compilation a c (f.plan a)).diagnostics])) where
  diagnostics label := by
    rw [List.flatMap_append, diagnosticsAbout_checkedTrace, linkTrace_of_linked linked]
    split_ifs with h <;> simp [diagnosticsBefore, Event.noted, Event.diagnosticsAbout, h]
  entries := by
    rw [List.flatMap_append, entries_checkedTrace, linkTrace_of_linked linked]
    rfl

end

lemma diagnosticsAbout_checked_linked (label : String) :
    (f.checkedTrace a c ++ f.linkedTrace a c).flatMap (Event.diagnosticsAbout label) =
      if a.label = label then f.invalid a c ++ f.linkDiagnostics a c else [] := by
  rw [List.flatMap_append, diagnosticsAbout_checkedTrace, diagnosticsAbout_linkedTrace]
  split_ifs <;> rfl

lemma entries_checked_linked :
    (f.checkedTrace a c ++ f.linkedTrace a c).flatMap Event.entries = f.entries a c := by
  rw [List.flatMap_append, entries_checkedTrace, entries_linkedTrace, entries]

lemma before_resourceReport :
    f.Before a c .resourceReport (f.checkedTrace a c ++ f.linkedTrace a c) where
  diagnostics := f.diagnosticsAbout_checked_linked a c
  entries := f.entries_checked_linked a c

section

variable {o : Operation} {more : List Event} (requests : ∀ e ∈ more, ∃ q, e = .request q)

include requests

/-- Requests report nothing. -/
lemma diagnosticsAbout_requests (label : String) :
    more.flatMap (Event.diagnosticsAbout label) = [] := by
  rw [List.flatMap_eq_nil_iff]
  intro e he
  obtain ⟨q, rfl⟩ := requests e he
  rfl

/-- Requests add nothing to the log. -/
lemma entries_requests : more.flatMap Event.entries = [] := by
  rw [List.flatMap_eq_nil_iff]
  intro e he
  obtain ⟨q, rfl⟩ := requests e he
  rfl

/-- The first three operations have only the entry about the mode and requests before them. -/
lemma before_first (first : o = .hostApp ∨ o = .memleaksLibrary ∨ o = .commonLibrary) :
    f.Before a c o (.noted a.label "classify" ("build mode is " ++ a.mode.text) :: more) where
  diagnostics label := by
    have table : f.diagnosticsBefore a c o = [] := by rcases first with rfl | rfl | rfl <;> rfl
    rw [List.flatMap_cons, diagnosticsAbout_requests requests, table, ite_self]
    rfl
  entries := by
    have table : f.entriesBefore a c o = [modeEntry a] := by
      rcases first with rfl | rfl | rfl <;> rfl
    rw [List.flatMap_cons, entries_requests requests, table, mode_eq, modeEntry]
    split_ifs <;> rfl

/-- The last two operations have all diagnostics and entries before them. -/
lemma before_last (last : o = .projectExport ∨ o = .testSupport) :
    f.Before a c o (f.checkedTrace a c ++ f.linkedTrace a c ++
      (.request (.resourceReport a) :: .report a.label (f.resources a).diagnostics :: more)) where
  diagnostics label := by
    have table : f.diagnosticsBefore a c o = f.diagnostics a c := by
      rcases last with rfl | rfl <;> rfl
    rw [List.flatMap_append, diagnosticsAbout_checked_linked, List.flatMap_cons, List.flatMap_cons,
      diagnosticsAbout_requests requests, table, diagnostics]
    split_ifs with h <;> simp [Event.diagnosticsAbout, h]
  entries := by
    have table : f.entriesBefore a c o = f.entries a c := by rcases last with rfl | rfl <;> rfl
    rw [List.flatMap_append, entries_checked_linked, List.flatMap_cons, List.flatMap_cons,
      entries_requests requests, table]
    exact List.append_nil _

end

lemma hostTrace_requests : ∀ e ∈ hostTrace a, ∃ q, e = .request q := by
  rw [hostTrace, mode_eq]
  split_ifs <;> simp

lemma librariesTrace_requests : ∀ e ∈ librariesTrace a c, ∃ q, e = .request q := by
  rw [librariesTrace]
  split_ifs <;> simp

/-- Every request that is made stands in the trace, behind steps for which the table holds. -/
lemma exists_before {q : Request} (h : q ∈ f.requests a c) :
    ∃ made, made ++ [.request q] <+: f.trace a c ∧ f.Before a c q.operation made := by
  rw [requests, ← commonRequest_eq, ← projectRequest_eq, linkRequests] at h
  simp only [List.mem_append, List.mem_ite_nil_right, List.mem_ite_nil_left, List.mem_cons,
    List.not_mem_nil, or_false] at h
  rcases h with (((⟨hosted, rfl⟩ | ⟨leaks, rfl⟩) | rfl) | ⟨linked, rfl | rfl⟩) | rfl | rfl | rfl
  · -- the host comes first
    refine ⟨_, ?_, f.before_first a c (List.forall_mem_nil _) (.inl rfl)⟩
    rw [trace_eq_open, openTrace, hostTrace, mode_eq, if_pos hosted]
    exact ⟨_, rfl⟩
  · refine ⟨_, ?_, f.before_first a c (hostTrace_requests a) (.inr (.inl rfl))⟩
    rw [trace_eq_open, openTrace, List.prefix_append_right_inj, commonTrace, librariesTrace,
      if_pos leaks]
    exact ⟨_, rfl⟩
  · have between := List.forall_mem_append.mpr ⟨hostTrace_requests a, librariesTrace_requests a c⟩
    refine ⟨_, ?_, f.before_first a c between (.inr (.inr rfl))⟩
    rw [trace_eq_open, openTrace, commonTrace]
    simp only [List.append_assoc, List.cons_append, List.cons_prefix_cons,
      List.prefix_append_right_inj, true_and]
    exact ⟨_, rfl⟩
  · refine ⟨_, ?_, before_compilation c linked⟩
    rw [trace_eq_checked, linkedTrace_of_linked c linked]
    simp only [List.append_assoc, List.prefix_append_right_inj]
    exact ⟨_, rfl⟩
  · refine ⟨_, ?_, before_bundle c linked⟩
    rw [trace_eq_checked, linkedTrace_of_linked c linked]
    simp only [List.append_assoc, List.prefix_append_right_inj]
    exact ⟨_, rfl⟩
  · refine ⟨_, ?_, f.before_resourceReport a c⟩
    rw [trace_eq_checked]
    simp only [List.append_assoc, List.prefix_append_right_inj]
    exact ⟨_, rfl⟩
  · refine ⟨_, ?_, f.before_last a c (List.forall_mem_nil _) (.inl rfl)⟩
    rw [trace_eq_checked]
    simp only [List.append_assoc, List.prefix_append_right_inj]
    exact ⟨_, rfl⟩
  · have between : ∀ e ∈ [Event.request (f.projectRequest a c)], ∃ q, e = .request q := by simp
    refine ⟨_, ?_, f.before_last a c between (.inr rfl)⟩
    rw [trace_eq_checked]
    simp only [List.append_assoc, List.prefix_append_right_inj]
    exact ⟨_, rfl⟩

lemma nodup_requests : (f.requests a c).Nodup := by
  have nodup : Operation.all.Nodup := by decide
  exact ((f.operations_requests a c).nodup nodup).of_map

/-- Where the requests are answered up to one that is not, the steps up to this one are made. -/
lemma exists_reached {r : Resolver} {made rest : List Request} {q : Request} {e : Fault}
    (split : f.requests a c = made ++ q :: rest)
    (answered : ∀ q' ∈ made, ∃ x, r.answer q' = .ok x) (failed : r.answer q = .error e) :
    ∃ done, r.stop? (f.trace a c) = some e ∧ r.reached (f.trace a c) = done ++ [.request q] ∧
      done ++ [.request q] <+: f.trace a c ∧ done.flatMap Event.requests = made ∧
      f.Before a c q.operation done := by
  have asked : q ∈ f.requests a c := by
    rw [split]
    simp
  obtain ⟨done, ⟨more, trace_eq⟩, before⟩ := f.exists_before a c asked
  have split' : made ++ q :: rest =
      done.flatMap Event.requests ++ q :: more.flatMap Event.requests := by
    rw [← split, ← f.requests_trace, ← trace_eq]
    simp [Event.requests]
  -- no request is made twice, so it stands in both lists at the same place
  have nodup := f.nodup_requests a c
  rw [split, List.nodup_middle, List.nodup_cons, List.mem_append, not_or] at nodup
  obtain ⟨rfl, -, -⟩ := (List.append_cons_inj_of_notMem nodup.1.1 nodup.1.2).mp split'
  have before_answered : r.stop? done = none := r.stop?_eq_none_iff.mpr answered
  refine ⟨done, ?_, ?_, ⟨more, trace_eq⟩, rfl, before⟩
  · rw [← trace_eq, List.append_assoc]
    exact Resolver.stop?_of_error before_answered failed more
  · rw [← trace_eq, List.append_assoc]
    exact Resolver.reached_of_error before_answered failed more

end Answers

namespace Assembly

open Resolver (answering)

/-- The entry that ends a build with a description: how many files this has, and how many errors are
among what is then reported about the target.  A build whose contributions contradict each other has
no such entry. -/
def closing (a : TestTarget) (reported : List Diagnostic) : Except Fault Description → List LogEntry
  | .ok d => [Answers.stageEntry a "aggregate" "assembled target description"
      [(.text "files", .int d.filesToBuild.size),
        (.text "errors", .int (reported.filter (·.severity = .error)).length)]]
  | .error _ => []

/-- The end of a build adds the closing entry to the log and nothing else. -/
lemma runFrom_conclude_closing (p : Progress) (a : TestTarget) (cs : List Contribution) :
    ∃ finished, runFrom p (conclude a cs) = ((runFrom p (merge a.label cs)).1, finished) ∧
      finished.requests = p.requests ∧ finished.ledger = p.ledger ∧
      finished.log.entries =
        p.log.entries ++ closing a (p.ledger.about a.label) (runFrom p (merge a.label cs)).1 := by
  rw [runFrom_conclude]
  cases (runFrom p (merge a.label cs)).1 with
  | ok d => exact ⟨_, rfl, rfl, rfl, rfl⟩
  | error e => exact ⟨_, rfl, rfl, rfl, (List.append_nil _).symm⟩

lemma precedes_conclude (p : Progress) (a : TestTarget) (cs : List Contribution) :
    p.Precedes (runFrom p (conclude a cs)).2 := by
  obtain ⟨finished, run, requests, ledger, entries⟩ := runFrom_conclude_closing p a cs
  rw [run]
  refine ⟨?_, fun label => ?_, ?_⟩
  · rw [requests]
  · rw [ledger]
  · rw [entries]
    exact List.prefix_append _ _

/-- A build goes through the steps at the beginning of its trace if their requests are answered,
wherever it ends. -/
lemma precedes_assemble {r : Resolver} {f : Answers} (completes : f.Completes r) {a : TestTarget}
    {c : Configuration} {es : List Event} (begins : es <+: f.trace a c)
    (answered : r.stop? es = none) (p : Progress) :
    (p.after es).Precedes (runFrom p (assemble r a c)).2 := by
  cases stop : r.stop? (f.trace a c) with
  | none =>
    rw [runFrom_assemble_of_answered completes a c stop]
    exact (p.precedes_after begins).trans (precedes_conclude _ _ _)
  | some e =>
    obtain ⟨more, trace_eq⟩ := begins
    rw [runFrom_assemble_of_stop completes a c stop, ← trace_eq, r.reached_append,
      r.reached_of_stop?_eq_none answered]
    exact p.precedes_after (List.prefix_append _ _)

/-- What a build all of whose requests are answered leaves behind. -/
lemma exists_finished {r : Resolver} {f : Answers} (completes : f.Completes r) (a : TestTarget)
    (c : Configuration) (answered : ∀ q ∈ f.requests a c, ∃ x, r.answer q = .ok x)
    (p : Progress) :
    ∃ result finished, runFrom p (assemble r a c) = (result, finished) ∧
      result = (runFrom p (merge a.label (f.contributions a c))).1 ∧
      finished.requests = p.requests ++ f.requests a c ∧
      finished.ledger.about a.label = p.ledger.about a.label ++ f.diagnostics a c ∧
      (∀ label ≠ a.label, finished.ledger.about label = p.ledger.about label) ∧
      finished.log.entries = p.log.entries ++ f.entries a c ++
        closing a (finished.ledger.about a.label) result := by
  rw [← f.requests_trace, ← r.stop?_eq_none_iff] at answered
  obtain ⟨finished, run, requests, ledger, entries⟩ :=
    runFrom_conclude_closing (p.after (f.trace a c)) a (f.contributions a c)
  rw [runFrom_assemble_of_answered completes a c answered, run]
  refine ⟨_, finished, rfl, ?_, ?_, ?_, ?_, ?_⟩
  · rw [Contribution.runFrom_merge, Contribution.runFrom_merge]
  · rw [requests, Progress.requests_after, f.requests_trace]
  · rw [ledger, Progress.about_after, f.diagnosticsAbout_trace, if_pos rfl]
  · intro label other
    rw [ledger, Progress.about_after, f.diagnosticsAbout_trace, if_neg other.symm, List.append_nil]
  · rw [entries, ledger, Progress.entries_after, f.entries_trace]

/-- Every resolver can be completed, whatever it fails at. -/
lemma exists_completes (r : Resolver) : ∃ f : Answers, f.Completes r := by
  refine ⟨fun q => (r.answer q).toOption.getD (plainAnswers q), fun q x answered => ?_⟩
  simp [answered, Except.toOption]

/-- A build whose requests are answered up to one, and this by a fault, raises this fault, whatever
it is.  It has made the requests up to there, and has reported and logged what the table lists
before this operation; every build in which these requests are answered alike, and this one too,
begins with all that it has done.  A build all of whose requests are answered makes all of them,
reports all diagnostics and ends as the merge does; of its entries only the closing one is missing
if its contributions contradict each other. -/
theorem interruption_exact (r : Resolver) (a : TestTarget) (c : Configuration) (p : Progress) :
    (∃ f : Answers, f.Completes r) ∧ ∀ f : Answers, f.Completes r →
    (∀ made q rest e, f.requests a c = made ++ q :: rest →
      (∀ q' ∈ made, ∃ x, r.answer q' = .ok x) → r.answer q = .error e →
      ∃ stopped, runFrom p (assemble r a c) = (.error e, stopped) ∧
        stopped.requests = p.requests ++ (made ++ [q]) ∧
        stopped.ledger.about a.label =
          p.ledger.about a.label ++ f.diagnosticsBefore a c q.operation ∧
        (∀ label ≠ a.label, stopped.ledger.about label = p.ledger.about label) ∧
        stopped.log.entries = p.log.entries ++ f.entriesBefore a c q.operation ∧
        ∀ s, f.Completes s → (∀ q' ∈ made ++ [q], ∃ x, s.answer q' = .ok x) →
          stopped.Precedes (runFrom p (assemble s a c)).2) ∧
    ((∀ q ∈ f.requests a c, ∃ x, r.answer q = .ok x) →
      ∃ result finished, runFrom p (assemble r a c) = (result, finished) ∧
        result = (runFrom p (merge a.label (f.contributions a c))).1 ∧
        finished.requests = p.requests ++ f.requests a c ∧
        finished.ledger.about a.label = p.ledger.about a.label ++ f.diagnostics a c ∧
        (∀ label ≠ a.label, finished.ledger.about label = p.ledger.about label) ∧
        finished.log.entries = p.log.entries ++ f.entries a c ++
          closing a (finished.ledger.about a.label) result) := by
  refine ⟨exists_completes r, fun f completes => ⟨?_, ?_⟩⟩
  · intro made q rest e split answered failed
    obtain ⟨done, stop, reached, precedes, rfl, before⟩ :=
      f.exists_reached a c split answered failed
    refine ⟨_, runFrom_assemble_of_stop completes a c stop p, ?_, ?_, ?_, ?_, ?_⟩
    · rw [reached, Progress.requests_after, List.flatMap_append]
      rfl
    · rw [reached, Progress.about_after, List.flatMap_append, before.diagnostics, if_pos rfl]
      exact congrArg _ (List.append_nil _)
    · intro label other
      rw [reached, Progress.about_after, List.flatMap_append, before.diagnostics,
        if_neg other.symm]
      exact List.append_nil _
    · rw [reached, Progress.entries_after, List.flatMap_append, before.entries]
      exact congrArg _ (List.append_nil _)
    · intro s completes' answered'
      rw [reached]
      refine precedes_assemble completes' precedes ?_ p
      rw [s.stop?_eq_none_iff, List.flatMap_append]
      exact answered'
  · exact fun answered => exists_finished completes a c answered p

/-- A fault of packaging that reads like that of a missing host. -/
def noHost : Problem := { kind := .missingHostApp, message := "no host" }

/-- A resolver that fails when it is asked to package a target. -/
def withoutBundles : Resolver :=
  ⟨fun q => if q.operation = .bundle then .error (.problem noHost) else .ok (plainAnswers q)⟩

/-- Answers in which the project is supplied as the files that tests need. -/
def confusedAnswers : Answers
  | .projectExport .. => { project := .capability (.runfiles { workspaceName := "main" }) }
  | q => plainAnswers q

/-- A problem raised in packaging is no diagnostic, and the requests end with that of packaging; two
capabilities of one kind leave all entries but the closing one. -/
theorem interruption_withoutBundles :
    (plainAnswers.Completes withoutBundles ∧
      ∃ stopped, runFrom {} (assemble withoutBundles { label := "//app:tests" } {}) =
          (.error (.problem noHost), stopped) ∧
        stopped.requests.map Request.operation = [.commonLibrary, .compilation, .bundle] ∧
        stopped.ledger.about "//app:tests" = []) ∧
    ∃ problem finished,
      runFrom {} (assemble (answering confusedAnswers) { label := "//app:tests" } {}) =
        (.error (.problem problem), finished) ∧
      problem.kind = .internalConsistency ∧
      finished.log.entries.map (·.stage) =
        [some "classify", some "common", some "link", some "bundle"] := by
  constructor
  · have completes : plainAnswers.Completes withoutBundles := by
      intro q x answered
      simp only [withoutBundles] at answered
      split_ifs at answered
      cases answered
      rfl
    obtain ⟨stopped, run, requests, about, -⟩ :=
      ((interruption_exact withoutBundles { label := "//app:tests" } {} {}).2 plainAnswers
        completes).1
        [.commonLibrary { label := "//app:tests" } [] [],
          .compilation { label := "//app:tests" } {} .forApplication [] .test]
        (.bundle { label := "//app:tests" } {} .forApplication appBundleFormat "7.0" .test) _
        (.problem noHost) rfl (by simp [withoutBundles]) rfl
    refine ⟨completes, stopped, run, ?_, ?_⟩
    · rw [requests]
      rfl
    · rw [about]
      rfl
  · obtain ⟨result, finished, run, merged, -, -, -, entries⟩ :=
      ((interruption_exact (answering confusedAnswers) { label := "//app:tests" } {} {}).2
        confusedAnswers confusedAnswers.completes_answering).2
        fun q _ => ⟨confusedAnswers q, rfl⟩
    have conflict : (runFrom {} (merge "//app:tests"
        (confusedAnswers.contributions { label := "//app:tests" } {}))).1 =
        .error (.problem (Contribution.suppliedTwice "//app:tests" (.capability .runfiles)
          "ide_project" "test_support")) := rfl
    rw [conflict] at merged
    rw [merged] at run entries
    refine ⟨_, finished, run, rfl, ?_⟩
    rw [entries]
    rfl

end Assembly

end TargetAssembly
