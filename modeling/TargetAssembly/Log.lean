import TargetAssembly.Diagnostics
import TargetAssembly.Json.Basic
import TargetAssembly.Value.Misfit
import TargetAssembly.Value.ToJson
import TargetAssembly.Value.Use

/-!
# Logs

A log holds entries: what was done for which target at which stage, in the order in which it was
done.
-/

namespace TargetAssembly

/-- One entry of a log. -/
structure LogEntry where
  /-- How grave the entry is. -/
  level : Severity
  /-- What was done. -/
  operation : String
  /-- For which target. -/
  target : Option String
  /-- At which stage. -/
  stage : Option String
  /-- What came of it. -/
  message : String
  /-- Further details, each key once. -/
  extra : List (Value × Value) := []

namespace LogEntry

/-- An entry as a value. -/
def toValue (r : LogEntry) : Value :=
  .record "LogRecord" [
    ("level", .text r.level.name),
    ("operation", .text r.operation),
    ("target", .ofText? r.target),
    ("stage", .ofText? r.stage),
    ("message", .text r.message),
    ("extra", .mapping true r.extra)]

/-- A value as an entry. -/
def ofValue? (v : Value) : Option LogEntry := do
  let [level, operation, target, stage, message, .mapping true extra] ← v.fields? "LogRecord"
    ["level", "operation", "target", "stage", "message", "extra"] | none
  return { level := ⟨← level.text?⟩
           operation := ← operation.text?
           target := ← target.option? Value.text?
           stage := ← stage.option? Value.text?
           message := ← message.text?
           extra }

@[simp] theorem ofValue?_toValue (r : LogEntry) : ofValue? r.toValue = some r := by
  simp [ofValue?, toValue, Value.fields?]

/-- The parts of an entry under their names; the details are left out if there are none. -/
def parts (r : LogEntry) : List (String × Value) :=
  [("level", .text r.level.name), ("operation", .text r.operation), ("target", .ofText? r.target),
    ("stage", .ofText? r.stage), ("message", .text r.message)] ++
  (if r.extra.isEmpty then [] else [("extra", .mapping false r.extra)])

/-- The entry that something went as it should. -/
def info (operation : String) (target stage : Option String) (message : String)
    (extra : List (Value × Value)) : LogEntry :=
  { level := .info, operation, target, stage, message, extra }

/-- The name of what notes that something went as it should. -/
def noter : String := "StageLog.info"

/-- What is told of an entry without being one of its details. -/
def takenNames : List String := [Signature.receiver, "stage", "message"]

/-- Named details, none of which has a name that is taken. -/
def checkDetails (extra : List (Value × Value)) : Except Misfit Unit :=
  if extra.all fun e => e.1.string?.isSome then
    match extra.findSome? fun e => e.1.string?.filter takenNames.contains with
    | some name => .error (.repeatedArgument noter name)
    | none => .ok ()
  else .error .argumentNotNamed

/-- Details as a value gives them; one that counts as false gives none. -/
def detailsOf (v : Value) : Except Misfit (List (Value × Value)) :=
  if v.isTrue then v.entries else .ok []

/-- The entry of a problem: its bare message, and its code among the details. -/
def failure (operation : String) (target stage : Option String) (p : Problem) : LogEntry :=
  { level := .error, operation, target, stage, message := p.message
    extra := [(.text "code", .text p.code)] }

end LogEntry

/-- What was done so far. -/
structure Log where
  /-- The entries, the oldest first. -/
  entries : List LogEntry := []

namespace Log

/-- Add an entry. -/
def add (l : Log) (r : LogEntry) : Log := ⟨l.entries ++ [r]⟩

/-- The entries about a target. -/
def entriesAbout (l : Log) (target : Option String) : List LogEntry :=
  l.entries.filter (·.target = target)

/-- The stages of the entries about a target, of all levels or of one. -/
def stagesAbout (l : Log) (target : Option String) (level : Option Severity) :
    List (Option String) :=
  ((l.entriesAbout target).filter fun r => level.all (r.level = ·)).map (·.stage)

end Log

end TargetAssembly

/-!
## Logs as files

A log is written to a file with one entry a line, each as a JSON object in ASCII.  The members of
every object stand in the order of their keys, which have to be comparable with each other; keys
that are no texts are written as texts.  A value of a type that JSON does not have cannot be
written.
-/

namespace TargetAssembly

/-! ### Lines -/

/-- The line of an entry with given parts, without its end. -/
def LogEntry.lineOf (parts : List (String × Value)) : Except Unwritable (List Char) := do
  return (← (Value.ofNamed parts).toJson).inline

namespace Log

/-- The text of entries with given parts: their lines, with a line feed between them and one at the
end. -/
def textOf (entries : List (List (String × Value))) : Except Unwritable (List Char) := do
  return Json.separated ['\n'] (← entries.mapM LogEntry.lineOf) ++ ['\n']

/-- The text of a log. -/
def written (l : Log) : Except Unwritable (List Char) := textOf (l.entries.map (·.parts))

/-- Write a log to a file. -/
def save (l : Log) (t : FileTree) (p : FilePath) : FileTree × Except ExportError Unit :=
  t.writeText p l.written

end Log

end TargetAssembly
