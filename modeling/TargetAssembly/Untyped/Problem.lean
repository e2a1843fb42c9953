import TargetAssembly.Problem.Basic
import TargetAssembly.Resolver.Request
import TargetAssembly.Value.Reading
import TargetAssembly.Value.Written

/-!
# Problems with parts of any type

The message, the hint and the context of a problem may be values of any type: a target may be
labelled by a number, and the context of a problem then names that number.  `ofTyped` takes a
problem whose parts are texts as one of these, and `typed?` gives it back.
-/

namespace TargetAssembly.Untyped

/-- A problem with parts of any type. -/
structure Problem where
  /-- The kind of the problem. -/
  kind : ProblemKind
  /-- What is wrong. -/
  message : Value
  /-- How it can be mended. -/
  hint : Value := .null
  /-- Where it came up, each key once. -/
  context : List (Value × Value) := []

namespace Problem

/-- A problem whose parts are texts. -/
def ofTyped (p : TargetAssembly.Problem) : Problem :=
  { kind := p.kind
    message := .text p.message
    hint := .ofText? p.hint
    context := p.context.map fun e => (.text e.1, .text e.2) }

/-- The problem that it is if all its parts are texts. -/
def typed? (p : Problem) : Option TargetAssembly.Problem := do
  return { kind := p.kind
           message := ← p.message.text?
           hint := ← p.hint.option? Value.text?
           context := ← p.context.mapM fun e => do return (← e.1.text?, ← e.2.text?) }

@[simp] theorem typed?_ofTyped (p : TargetAssembly.Problem) : (ofTyped p).typed? = some p := by
  have h := Value.mapM_map_some (f := fun e : Value × Value => do return (← e.1.text?, ← e.2.text?))
    (g := fun e : String × String => (Value.text e.1, Value.text e.2)) (fun _ => rfl) p.context
  unfold typed? ofTyped
  dsimp only
  rw [h]
  simp

/-- The code of a problem. -/
def code (p : Problem) : String := p.kind.code.text

/-- A problem as a value, with the occurrence that tells it from others. -/
def toValue (occurrence : Nat) (p : Problem) : Value :=
  .problem occurrence p.kind p.message p.hint p.context

/-- A value as a problem. -/
def ofValue? : Value → Option Problem
  | .problem _ kind message hint context => some { kind, message, hint, context }
  | _ => none

/-- The full text of a problem. -/
def text (p : Problem) : Except Misfit String := (p.toValue 0).plain

/-- A problem whose parts are texts has the text that it has as such. -/
theorem text_ofTyped (p : TargetAssembly.Problem) : (ofTyped p).text = .ok p.text := by
  obtain ⟨kind, message, hint, context⟩ := p
  cases hint with
  | none =>
    simp [text, toValue, ofTyped, TargetAssembly.Problem.text, TargetAssembly.Problem.lines,
      Value.plain, Value.plainContext_map_text, Value.ofText?, Value.isTrue, Value.string?,
      bind, Except.bind, pure, Except.pure]
  | some hint =>
    cases h : hint.isEmpty <;>
      simp [text, toValue, ofTyped, TargetAssembly.Problem.text, TargetAssembly.Problem.lines,
        Value.plain, Value.plainContext_map_text, Value.ofText?, Value.isTrue_text, Value.string?,
        h, bind, Except.bind, pure, Except.pure]

/-- The problem with another value in an entry of its context. -/
def within (p : Problem) (key : String) (v : Value) : Problem :=
  { p with context := Keyed.set (.text key) v p.context }

/-- A problem as a report names its parts: the code, the full text, the context, and the hint if
there is one. -/
def report (p : Problem) : Except Misfit (List (String × Value)) := do
  let text ← p.text
  return [("code", .text p.code), ("message", .text text), ("context", .mapping false p.context)] ++
    (match p.hint with
      | .null => []
      | hint => [("hint", hint)])

end Problem

/-!
## Faults

What stops a build can be a problem with parts of any type, and what takes the place of an answer
can fail for a reason of its own, which the build passes on as it is.
-/

/-- Why a build from values of any type stops. -/
inductive Fault where
  /-- A problem that was raised and not reported. -/
  | problem (p : Problem)
  /-- The template of the directory of a bundle cannot be filled. -/
  | template (f : Template.Failure)
  /-- A value does not fit its use. -/
  | misfit (m : Misfit)
  /-- An error from outside: the name of its type and its message. -/
  | foreign (type message : String)

namespace Fault

/-- A fault of a build from typed data. -/
def ofTyped : TargetAssembly.Fault → Fault
  | .problem p => problem (.ofTyped p)
  | .template f => template f
  | .misfit m => misfit m

/-- The fault of a build from typed data that it is, if it can be one. -/
def typed? : Fault → Option TargetAssembly.Fault
  | problem p => p.typed?.map .problem
  | template f => some (.template f)
  | misfit m => some (.misfit m)
  | foreign .. => none

@[simp] theorem typed?_ofTyped (f : TargetAssembly.Fault) : (ofTyped f).typed? = some f := by
  cases f <;> simp [ofTyped, typed?]

end Fault

/-!
## Problems by the name of their kind

A problem can be stated by the name of its kind and by its parts, which may be of any type.  Its
message has to be given unless its kind has one of its own, and a code has to be given where the
kind does not fix it; where it does, a code that is given counts for nothing.
-/

/-- A problem as it is stated. -/
structure StatedProblem where
  /-- The name of the kind. -/
  kind : String
  /-- The code, if it is given. -/
  code : Option Value := none
  /-- The message, if it is given. -/
  message : Option Value := none
  /-- How the problem can be mended. -/
  hint : Value := .null
  /-- Where the problem came up. -/
  context : List (Value × Value) := []

namespace StatedProblem

/-- Why a problem cannot be made as it is stated. -/
inductive Fault where
  /-- There is no kind of that name. -/
  | unknownKind (name : String)
  /-- A code has to be given, and is not. -/
  | noCode
  /-- There is no such code. -/
  | unknownCode (code : Value)
  /-- The message has to be given, and is not. -/
  | misfit (m : Misfit)

/-- The kinds that fix the code of their problems. -/
def specialKinds : List ProblemKind :=
  [.requiresSource, .noMultiArch, .missingHostApp, .configuration, .internalConsistency]

/-- The kind of no special name, under the code that is given. -/
def generalKind (code : Option Value) : Except Fault ProblemKind :=
  match code with
  | none => .error .noCode
  | some code =>
    match code.string?.bind ProblemCode.ofText? with
    | some code => .ok (.general code)
    | none => .error (.unknownCode code)

/-- The kind that is stated. -/
def statedKind (s : StatedProblem) : Except Fault ProblemKind :=
  match specialKinds.find? (·.name = s.kind) with
  | some kind => .ok kind
  | none =>
    if s.kind = (ProblemKind.general .configuration).name then generalKind s.code
    else .error (.unknownKind s.kind)

/-- The message that is stated, or that of the kind. -/
def messageOf (s : StatedProblem) (kind : ProblemKind) : Except Fault Value :=
  match s.message, kind.defaultMessage? with
  | some message, _ => .ok message
  | none, some message => .ok (.text message)
  | none, none => .error (.misfit (.missingArguments (kind.name ++ ".__init__") ["message"]))

/-- The problem that is stated. -/
def problem (s : StatedProblem) : Except Fault Problem := do
  let kind ← s.statedKind
  return { kind, message := ← s.messageOf kind, hint := s.hint, context := s.context }

end StatedProblem

end TargetAssembly.Untyped
