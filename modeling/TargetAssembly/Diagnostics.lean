import TargetAssembly.Keyed
import TargetAssembly.Problem.Basic
import TargetAssembly.Value.Reading

/-!
# Diagnostics

What is reported about targets is collected per target, in the order of the reports.  A target is
listed from its first report on, even if that report was empty; reporting never fails.
-/

namespace TargetAssembly

/-- How grave a report is. -/
structure Severity where
  /-- The name of the degree. -/
  name : String
deriving DecidableEq, Repr

/-- What keeps a target from being built. -/
def Severity.error : Severity := ⟨"error"⟩

/-- What is worth knowing. -/
def Severity.info : Severity := ⟨"info"⟩

/-- One report about a target. -/
structure Diagnostic where
  /-- How grave the report is. -/
  severity : Severity
  /-- What is reported. -/
  message : String
  /-- The code of the problem, if the report is about one. -/
  code : Option String := none
deriving DecidableEq, Repr

namespace Diagnostic

/-- A diagnostic as a value. -/
def toValue (d : Diagnostic) : Value :=
  .record "Diagnostic" [
    ("severity", .text d.severity.name),
    ("message", .text d.message),
    ("code", .ofText? d.code)]

/-- A value as a diagnostic. -/
def ofValue? (v : Value) : Option Diagnostic := do
  let [severity, message, code] ← v.fields? "Diagnostic" ["severity", "message", "code"] | none
  return { severity := ⟨← severity.text?⟩
           message := ← message.text?
           code := ← code.option? Value.text? }

@[simp] theorem ofValue?_toValue (d : Diagnostic) : ofValue? d.toValue = some d := by
  simp [ofValue?, toValue, Value.fields?]

/-- The diagnostic of a problem: its bare message under its code. -/
def ofProblem (p : Problem) : Diagnostic :=
  { severity := .error, message := p.message, code := some p.code }

/-- Whether a diagnostic keeps its target from being built. -/
def isError (d : Diagnostic) : Bool := d.severity = .error

end Diagnostic

/-- The diagnostics of all targets. -/
structure DiagnosticLedger where
  /-- The diagnostics of each target, the targets in the order of their first report. -/
  entries : List (String × List Diagnostic) := []
deriving DecidableEq, Repr

namespace DiagnosticLedger

/-- The diagnostics of a target. -/
def about (s : DiagnosticLedger) (target : String) : List Diagnostic :=
  (s.entries.lookup target).getD []

/-- The diagnostics that keep a target from being built. -/
def errorsAbout (s : DiagnosticLedger) (target : String) : List Diagnostic :=
  (s.about target).filter (·.isError)

/-- Whether anything keeps a target from being built. -/
def hasErrorsAbout (s : DiagnosticLedger) (target : String) : Bool :=
  !(s.errorsAbout target).isEmpty

/-- The targets, in the order of their first report. -/
def targets (s : DiagnosticLedger) : List String := Keyed.keys s.entries

/-- Report diagnostics about a target. -/
def reportAll (s : DiagnosticLedger) (target : String) (ds : List Diagnostic) : DiagnosticLedger :=
  ⟨Keyed.set target (s.about target ++ ds) s.entries⟩

/-- Report one diagnostic about a target. -/
def report (s : DiagnosticLedger) (target : String) (d : Diagnostic) : DiagnosticLedger :=
  s.reportAll target [d]

/-- Report a problem of a target. -/
def reportProblem (s : DiagnosticLedger) (target : String) (p : Problem) : DiagnosticLedger :=
  s.report target (.ofProblem p)

/-- Report the problems of a target. -/
def reportProblems (s : DiagnosticLedger) (target : String) (ps : List Problem) :
    DiagnosticLedger :=
  ps.foldl (fun s p => s.reportProblem target p) s

/-- All entries as a value. -/
def toValue (s : DiagnosticLedger) : Value :=
  .ofNamed (s.entries.map fun e => (e.1, .list (e.2.map Diagnostic.toValue)))

@[simp] theorem about_reportAll (s : DiagnosticLedger) (target : String)
    (ds : List Diagnostic) :
    (s.reportAll target ds).about target = s.about target ++ ds := by
  simp [reportAll, about, Keyed.lookup_set_self]

theorem about_reportAll_of_ne {target other : String} (h : other ≠ target)
    (s : DiagnosticLedger) (ds : List Diagnostic) :
    (s.reportAll target ds).about other = s.about other := by
  simp [reportAll, about, Keyed.lookup_set_of_ne h]

end DiagnosticLedger

end TargetAssembly
