import TargetAssembly.Log
import TargetAssembly.Untyped.Problem

/-!
# Ledgers and logs of any values

What is reported and what is noted may concern targets with labels of any type, and what is reported
may be anything at all.  Reporting does not look at it; asking for the errors does.
-/

namespace TargetAssembly.Untyped

/-! ## Ledgers -/

/-- Reports about targets. -/
structure Ledger where
  /-- The reports about each target, the targets in the order of their first report. -/
  entries : List (Value × List Value) := []

namespace Ledger

/-- The ledger with given diagnostics. -/
def ofTyped (l : DiagnosticLedger) : Ledger :=
  ⟨l.entries.map fun e => (.text e.1, e.2.map Diagnostic.toValue)⟩

/-- The ledger of what is reported, if all is what it should be. -/
def typed? (l : Ledger) : Option DiagnosticLedger := do
  return ⟨← l.entries.mapM fun e => do return (← e.1.text?, ← e.2.mapM Diagnostic.ofValue?)⟩

/-- The reports about a target. -/
def about (l : Ledger) (target : Value) : Except Misfit (List Value) := do
  return (l.entries.lookup (← target.key)).getD []

/-- Whether a report keeps its target from being built. -/
def isError (report : Value) : Except Misfit Bool := do
  return (← report.part "severity").sameKey (.text Severity.error.name)

/-- The reports that keep a target from being built. -/
def errorsAbout (l : Ledger) (target : Value) : Except Misfit (List Value) := do
  (← l.about target).filterM isError

/-- The targets, in the order of their first report. -/
def targets (l : Ledger) : List Value := Keyed.keys l.entries

/-- Report something about a target. -/
def reportAll (l : Ledger) (target : Value) (reports : List Value) : Except Misfit Ledger := do
  return ⟨Keyed.set target ((← l.about target) ++ reports) l.entries⟩

/-- What is reported with a severity, a message and perhaps a code. -/
def report (severity message code : Value) : Value :=
  .record "Diagnostic" [("severity", severity), ("message", message), ("code", code)]

/-- What is reported of a problem: its bare message under its code. -/
def reportOf (p : Problem) : Value :=
  report (.text Severity.error.name) p.message (.text p.code)

/-- Report problems of a target. -/
def reportProblems (l : Ledger) (target : Value) (ps : List Problem) : Except Misfit Ledger :=
  ps.foldlM (fun l p => l.reportAll target [reportOf p]) l

/-- All entries as a value. -/
def toValue (l : Ledger) : Value := .mapping false (l.entries.map fun e => (e.1, .list e.2))

end Ledger

/-! ## Logs -/

/-- Entries of a log, each as a value. -/
structure Log where
  /-- The entries, the oldest first. -/
  entries : List Value := []

namespace Log

/-- The log with given entries. -/
def ofTyped (l : TargetAssembly.Log) : Log := ⟨l.entries.map LogEntry.toValue⟩

/-- The log of what is noted, if all is what it should be. -/
def typed? (l : Log) : Option TargetAssembly.Log := do
  return ⟨← l.entries.mapM LogEntry.ofValue?⟩

/-- Add an entry. -/
def add (l : Log) (entry : Value) : Log := ⟨l.entries ++ [entry]⟩

/-- An entry with its details. -/
def entry (level operation target stage message : Value) (extra : List (Value × Value) := []) :
    Value :=
  .record "LogRecord" [("level", level), ("operation", operation), ("target", target),
    ("stage", stage), ("message", message), ("extra", .mapping true extra)]

/-- The entry that something went as it should. -/
def info (operation target stage message : Value) (extra : List (Value × Value) := []) : Value :=
  entry (.text Severity.info.name) operation target stage message extra

/-- The entry of a problem: its bare message, and its code among the details. -/
def failure (operation target stage : Value) (p : Problem) : Value :=
  entry (.text Severity.error.name) operation target stage p.message
    [(.text "code", .text p.code)]

/-- The value of a field of an entry. -/
def field (entry : Value) (name : String) : Value := ((entry.part name).toOption).getD .null

/-- The parts of an entry under their names; the details are left out if there are none. -/
def parts (entry : Value) : List (String × Value) :=
  match entry with
  | .record _ fields => fields.filterMap fun
    | (_, .mapping true []) => none
    | (name, .mapping true extra) => some (name, .mapping false extra)
    | f => some f
  | _ => []

/-- The entries about a target. -/
def entriesAbout (l : Log) (target : Value) : List Value :=
  l.entries.filter fun r => (field r "target").sameKey target

/-- The stages of the entries about a target, of all levels or of one. -/
def stagesAbout (l : Log) (target level : Value) : List Value :=
  let sought (r : Value) : Bool := match level with
    | .null => true
    | level => (field r "level").sameKey level
  ((l.entriesAbout target).filter sought).map (field · "stage")

/-- Write a log to a file. -/
def save (l : Log) (t : FileTree) (p : FilePath) :
    FileTree × Except ExportError Unit :=
  match l.typed? with
  | some typed => typed.save t p
  | none => t.writeText p (TargetAssembly.Log.textOf (l.entries.map parts))

end Log

end TargetAssembly.Untyped
