import TargetAssembly.Proofs.KeyedLookup
import TargetAssembly.Untyped.Record

/-!
# What a ledger holds after any calls

A ledger takes single reports, problems and any number of diagnostics at once.  All of these come
down to diagnostics that are added about one target (`perform_eq`), so that after a run each target
has the diagnostics that were addressed to it, in the order of the calls, whatever was reported
about others in between.  A ledger of any values does the same with such reports: `reporting_exact`
says both.
-/

namespace TargetAssembly

namespace DiagnosticLedger

/-! ## Calls -/

/-- A call that reports something about a target. -/
inductive ReportCall where
  /-- A report of a severity, a message and perhaps a code. -/
  | report (target : String) (severity : Severity) (message : String) (code : Option String)
  /-- A problem. -/
  | problem (target : String) (p : Problem)
  /-- Any number of diagnostics. -/
  | all (target : String) (ds : List Diagnostic)

namespace ReportCall

/-- The target that a call is about. -/
def target : ReportCall → String
  | report target _ _ _ => target
  | problem target _ => target
  | all target _ => target

/-- The diagnostics that a call addresses to its target: of a problem, an error with its bare
message and its code. -/
def diagnostics : ReportCall → List Diagnostic
  | report _ severity message code => [{ severity, message, code }]
  | problem _ p => [{ severity := ⟨"error"⟩, message := p.message, code := some p.code }]
  | all _ ds => ds

/-- What a call makes of a ledger. -/
def perform (s : DiagnosticLedger) : ReportCall → DiagnosticLedger
  | report target severity message code => s.report target { severity, message, code }
  | problem target p => s.reportProblem target p
  | all target ds => s.reportAll target ds

/-- Every call adds its diagnostics about its target. -/
lemma perform_eq (s : DiagnosticLedger) (c : ReportCall) :
    c.perform s = s.reportAll c.target c.diagnostics := by
  cases c <;> rfl

end ReportCall

/-- The ledger after some calls. -/
def after (s : DiagnosticLedger) (calls : List ReportCall) : DiagnosticLedger :=
  calls.foldl ReportCall.perform s

/-- The diagnostics that some calls address to a target. -/
def addressed (target : String) (calls : List ReportCall) : List Diagnostic :=
  (calls.filter fun c => c.target = target).flatMap ReportCall.diagnostics

/-! ## One call -/

variable (s : DiagnosticLedger) (c : ReportCall)

lemma addressed_cons (target : String) (calls : List ReportCall) :
    addressed target (c :: calls) =
      (if c.target = target then c.diagnostics else []) ++ addressed target calls := by
  rw [addressed, List.filter_cons]
  by_cases own : c.target = target
  · rw [if_pos own, if_pos (by simpa using own), List.flatMap_cons, addressed]
  · rw [if_neg own, if_neg (by simpa using own), List.nil_append, addressed]

lemma about_perform (target : String) :
    (c.perform s).about target =
      s.about target ++ if c.target = target then c.diagnostics else [] := by
  rw [ReportCall.perform_eq]
  by_cases own : c.target = target
  · subst own
    rw [if_pos rfl, about_reportAll]
  · rw [if_neg own, List.append_nil, about_reportAll_of_ne (Ne.symm own)]

/-- A call lists its target, even if it brings no diagnostic. -/
lemma targets_perform :
    (c.perform s).targets =
      if c.target ∈ s.targets then s.targets else s.targets ++ [c.target] := by
  rw [ReportCall.perform_eq, targets, reportAll, Keyed.keys_set, targets]

/-! ## Several calls -/

lemma about_after (target : String) (calls : List ReportCall) :
    (s.after calls).about target = s.about target ++ addressed target calls := by
  induction calls generalizing s with
  | nil => exact (List.append_nil _).symm
  | cons c calls ih =>
    show ((c.perform s).after calls).about target = _
    rw [ih, about_perform, addressed_cons, List.append_assoc]

/-- The targets of a new ledger after some calls are those of the calls, as they come up first. -/
lemma targets_after (calls : List ReportCall) :
    (after {} calls).targets = (calls.map ReportCall.target).eraseDups := by
  induction calls using List.reverseRecOn with
  | nil => rfl
  | append_singleton calls c ih =>
    have last : after {} (calls ++ [c]) = c.perform (after {} calls) := by
      rw [after, List.foldl_append]
      rfl
    rw [last, targets_perform, ih, List.map_append, List.map_singleton, eraseDups_concat]
    simp only [List.mem_eraseDups]

lemma errorsAbout_eq (target : String) :
    s.errorsAbout target = (s.about target).filter fun d => d.severity = ⟨"error"⟩ := rfl

lemma hasErrorsAbout_iff (target : String) :
    s.hasErrorsAbout target = true ↔ s.errorsAbout target ≠ [] := by
  rw [hasErrorsAbout, Bool.not_eq_true', List.isEmpty_eq_false_iff]

/-! ## Calls in another order -/

/-- Neighbours that are not both kept can be swapped. -/
lemma filter_swap {α : Type} {p : α → Bool} {a b : α} (one : ¬ (p a = true ∧ p b = true))
    (front back : List α) :
    (front ++ a :: b :: back).filter p = (front ++ b :: a :: back).filter p := by
  have pair : (a :: b :: back).filter p = (b :: a :: back).filter p := by
    by_cases ha : p a = true
    · have hb : ¬ p b = true := fun hb => one ⟨ha, hb⟩
      simp [ha, hb]
    · simp [ha, List.filter_cons]
  rw [List.filter_append, pair, List.filter_append]

section Swap

variable {c d : ReportCall} (front back : List ReportCall) (target : String)

/-- Calls about different targets address the same to every target in either order. -/
lemma addressed_swap (apart : c.target ≠ d.target) :
    addressed target (front ++ c :: d :: back) = addressed target (front ++ d :: c :: back) := by
  have one : ¬ (decide (c.target = target) = true ∧ decide (d.target = target) = true) := by
    rintro ⟨hc, hd⟩
    exact apart ((of_decide_eq_true hc).trans (of_decide_eq_true hd).symm)
  rw [addressed, addressed, filter_swap one]

/-- Without one of the two targets, the targets are listed in the same order. -/
lemma targets_swap (one : target = c.target ∨ target = d.target) :
    (after {} (front ++ c :: d :: back)).targets.filter (· ≠ target) =
      (after {} (front ++ d :: c :: back)).targets.filter (· ≠ target) := by
  have either : ¬ (decide (c.target ≠ target) = true ∧ decide (d.target ≠ target) = true) := by
    rintro ⟨hc, hd⟩
    rcases one with h | h
    · exact of_decide_eq_true hc h.symm
    · exact of_decide_eq_true hd h.symm
  rw [targets_after, targets_after, ← eraseDups_filter, ← eraseDups_filter, List.map_append,
    List.map_append, List.map_cons, List.map_cons, List.map_cons, List.map_cons, filter_swap either]

end Swap

end DiagnosticLedger

/-! ## Ledgers of any values -/

namespace Untyped.Ledger

open DiagnosticLedger (ReportCall)

/-- What a call makes of a ledger of any values. -/
def perform (l : Ledger) : ReportCall → Except Misfit Ledger
  | .report target severity message code =>
    l.reportAll (.text target) [report (.text severity.name) (.text message) (.ofText? code)]
  | .problem target p => l.reportAll (.text target) [reportOf (.ofTyped p)]
  | .all target ds => l.reportAll (.text target) (ds.map Diagnostic.toValue)

lemma beq_text (s t : String) : (Value.text s == Value.text t) = (s == t) := by
  show (Value.text s).sameKey (.text t) = (s == t)
  simp [Value.sameKey, Value.number?, Value.int?, Value.string?]

variable (s : DiagnosticLedger) (target : String)

lemma about_ofTyped :
    (ofTyped s).about (.text target) = .ok ((s.about target).map Diagnostic.toValue) := by
  have found := Keyed.lookup_map_of_beq beq_text (List.map Diagnostic.toValue) s.entries target
  show Except.ok (((ofTyped s).entries.lookup (.text target)).getD []) = _
  rw [ofTyped, found, DiagnosticLedger.about]
  cases s.entries.lookup target <;> rfl

lemma reportAll_ofTyped (ds : List Diagnostic) :
    (ofTyped s).reportAll (.text target) (ds.map Diagnostic.toValue) =
      .ok (ofTyped (s.reportAll target ds)) := by
  have bound := Keyed.set_map_of_beq beq_text (List.map Diagnostic.toValue) target
    (s.about target ++ ds) s.entries
  rw [List.map_append] at bound
  rw [reportAll, about_ofTyped]
  show Except.ok (Ledger.mk (Keyed.set _ _ (ofTyped s).entries)) = _
  rw [ofTyped, bound, ofTyped, DiagnosticLedger.reportAll]

lemma perform_ofTyped (c : ReportCall) : (ofTyped s).perform c = .ok (ofTyped (c.perform s)) := by
  have each := reportAll_ofTyped s c.target c.diagnostics
  rw [← ReportCall.perform_eq] at each
  cases c <;> exact each

/-- Calls never fail, and make of a ledger what they make of it with all its types. -/
lemma foldlM_perform_ofTyped (calls : List ReportCall) :
    calls.foldlM perform (ofTyped s) = .ok (ofTyped (s.after calls)) := by
  induction calls generalizing s with
  | nil => rfl
  | cons c calls ih =>
    rw [List.foldlM_cons, perform_ofTyped]
    exact ih (c.perform s)

lemma isError_toValue (d : Diagnostic) : isError d.toValue = .ok d.isError := by
  have same : (d.severity.name == Severity.error.name) = d.isError := by
    rw [Diagnostic.isError, Bool.eq_iff_iff, beq_iff_eq, decide_eq_true_eq]
    exact ⟨fun h => congrArg Severity.mk h, congrArg Severity.name⟩
  show Except.ok (Value.text d.severity.name == .text Severity.error.name) = _
  rw [beq_text, same]

/-- The errors among some reports, behind those that were found before. -/
lemma filterAuxM_isError (ds : List Diagnostic) (found : List Value) :
    (ds.map Diagnostic.toValue).filterAuxM isError found =
      .ok (((ds.filter (·.isError)).map Diagnostic.toValue).reverse ++ found) := by
  induction ds generalizing found with
  | nil => rfl
  | cons d ds ih =>
    rw [List.map_cons, List.filterAuxM, isError_toValue]
    cases isError : d.isError with
    | true =>
      show (ds.map Diagnostic.toValue).filterAuxM _ (d.toValue :: found) = _
      rw [ih, List.filter_cons_of_pos isError, List.map_cons, List.reverse_cons,
        List.append_assoc, List.singleton_append]
    | false =>
      show (ds.map Diagnostic.toValue).filterAuxM _ found = _
      rw [ih, List.filter_cons_of_neg (by simp [isError])]

lemma errorsAbout_ofTyped :
    (ofTyped s).errorsAbout (.text target) =
      .ok ((s.errorsAbout target).map Diagnostic.toValue) := by
  rw [errorsAbout, about_ofTyped]
  show ((s.about target).map Diagnostic.toValue).filterM isError = _
  rw [List.filterM, filterAuxM_isError, List.append_nil]
  show Except.ok _ = _
  rw [List.reverse_reverse, DiagnosticLedger.errorsAbout]

lemma targets_ofTyped : (ofTyped s).targets = s.targets.map Value.text := by
  rw [targets, DiagnosticLedger.targets, Keyed.keys, Keyed.keys, ofTyped, List.map_map,
    List.map_map]
  rfl

end Untyped.Ledger

/-! ## Main result -/

namespace DiagnosticLedger

/-- After any calls to a new ledger each target has the diagnostics that were addressed to it, in
the order of the calls, and its errors are those of them that are errors.  The targets are listed as
they come up first, with or without diagnostics.  So two neighbouring calls about different targets
can be made in either order, which only shows in the order of these two.  A ledger of any values
takes the same calls without failing, and then answers the same. -/
theorem reporting_exact (calls : List ReportCall) :
    (∀ target, (after {} calls).about target = addressed target calls ∧
      (after {} calls).errorsAbout target =
        (addressed target calls).filter (fun d => d.severity = ⟨"error"⟩) ∧
      ((after {} calls).hasErrorsAbout target = true ↔
        (addressed target calls).filter (fun d => d.severity = ⟨"error"⟩) ≠ [])) ∧
    FirstSeen (calls.map ReportCall.target) (after {} calls).targets ∧
    (∀ (front back : List ReportCall) (c d : ReportCall), c.target ≠ d.target →
      (∀ target,
        (after {} (front ++ c :: d :: back)).about target =
          (after {} (front ++ d :: c :: back)).about target ∧
        (after {} (front ++ c :: d :: back)).errorsAbout target =
          (after {} (front ++ d :: c :: back)).errorsAbout target ∧
        (after {} (front ++ c :: d :: back)).hasErrorsAbout target =
          (after {} (front ++ d :: c :: back)).hasErrorsAbout target) ∧
      ∀ target ∈ [c.target, d.target],
        (after {} (front ++ c :: d :: back)).targets.filter (· ≠ target) =
          (after {} (front ++ d :: c :: back)).targets.filter (· ≠ target)) ∧
    ∃ l : Untyped.Ledger, calls.foldlM Untyped.Ledger.perform {} = .ok l ∧
      (∀ target,
        l.about (.text target) = .ok (((after {} calls).about target).map Diagnostic.toValue) ∧
        l.errorsAbout (.text target) =
          .ok (((after {} calls).errorsAbout target).map Diagnostic.toValue)) ∧
      l.targets = (after {} calls).targets.map Value.text := by
  have about (calls : List ReportCall) (target : String) :
      (after {} calls).about target = addressed target calls := about_after {} target calls
  refine ⟨fun target => ?_, ?_, ?_, ?_⟩
  · have errors := errorsAbout_eq (after {} calls) target
    rw [about] at errors
    exact ⟨about calls target, errors, by rw [hasErrorsAbout_iff, errors]⟩
  · rw [targets_after]
    exact firstSeen_eraseDups _
  · intro front back c d apart
    refine ⟨fun target => ?_, fun target one => targets_swap front back target (by simpa using one)⟩
    have same : (after {} (front ++ c :: d :: back)).about target =
        (after {} (front ++ d :: c :: back)).about target := by
      rw [about, about, addressed_swap front back target apart]
    have errors : (after {} (front ++ c :: d :: back)).errorsAbout target =
        (after {} (front ++ d :: c :: back)).errorsAbout target := by
      rw [errorsAbout, same, errorsAbout]
    exact ⟨same, errors, by rw [hasErrorsAbout, errors, hasErrorsAbout]⟩
  · have ended : calls.foldlM Untyped.Ledger.perform {} = .ok (.ofTyped (after {} calls)) :=
      Untyped.Ledger.foldlM_perform_ofTyped {} calls
    exact ⟨_, ended, fun target => ⟨Untyped.Ledger.about_ofTyped _ target,
      Untyped.Ledger.errorsAbout_ofTyped _ target⟩, Untyped.Ledger.targets_ofTyped _⟩

/-- A call without any diagnostic. -/
def emptyCall : ReportCall := .all "//app:tests" []

/-- A call with a problem of another target. -/
def problemCall : ReportCall :=
  .problem "//app:other" { kind := .requiresSource, message := requiresSourceMessage }

/-- Calls about two targets leave both with the same errors in either order; the targets are listed
in the order of the calls, the one without diagnostics too. -/
theorem reporting_swapped :
    emptyCall.target ≠ problemCall.target ∧
    (after {} [emptyCall, problemCall]).errorsAbout "//app:other" =
      (after {} [problemCall, emptyCall]).errorsAbout "//app:other" ∧
    (after {} [emptyCall, problemCall]).targets = ["//app:tests", "//app:other"] ∧
    (after {} [problemCall, emptyCall]).targets = ["//app:other", "//app:tests"] := by
  have apart : emptyCall.target ≠ problemCall.target := by decide
  obtain ⟨-, -, swap, -⟩ := reporting_exact []
  obtain ⟨-, errors, -⟩ := (swap [] [] emptyCall problemCall apart).1 "//app:other"
  exact ⟨apart, errors, by decide, by decide⟩

end DiagnosticLedger

end TargetAssembly
