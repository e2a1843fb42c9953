import Mathlib.Tactic.Lemma
import TargetAssembly.Assembly

/-!
# Traces of builds

A build adds to its progress step by step: it makes a request, reports diagnostics, or adds an entry
to the log.  `Runs m result es` says that `m` ends with `result` and that `es` is what it adds,
whatever was done before.
-/

namespace TargetAssembly

/-- One step of a build. -/
inductive Event where
  /-- A request is made. -/
  | request (q : Request)
  /-- Diagnostics of a target are reported. -/
  | report (target : String) (ds : List Diagnostic)
  /-- An entry is added to the log. -/
  | entry (e : LogEntry)

namespace Progress

/-- Progress after one more step. -/
def record (p : Progress) : Event → Progress
  | .request q => { p with requests := p.requests ++ [q] }
  | .report target ds => { p with ledger := p.ledger.reportAll target ds }
  | .entry e => { p with log := p.log.add e }

/-- Progress after further steps. -/
def after (p : Progress) (es : List Event) : Progress := es.foldl record p

@[simp] theorem after_append (p : Progress) (es fs : List Event) :
    p.after (es ++ fs) = (p.after es).after fs :=
  List.foldl_append

end Progress

/-! ## Traces of the steps -/

namespace Event

/-- The note of what a stage came to. -/
def noted (label stage message : String) (extra : List (String × Value) := []) : Event :=
  .entry (.info Assembly.operationName (some label) (some stage) message
    (extra.map fun e => (.text e.1, e.2)))

/-- The reports of problems, one by one. -/
def problemReports (label : String) (ps : List Problem) : List Event :=
  ps.map fun q => .report label [.ofProblem q]

/-- The notes of problems, one by one. -/
def problemNotes (label stage : String) (ps : List Problem) : List Event :=
  ps.map fun q => .entry (.failure Assembly.operationName (some label) (some stage) q)

/-! ## What steps add -/

/-- The request that a step makes, if it makes one. -/
def requests : Event → List Request
  | request q => [q]
  | _ => []

/-- The diagnostics of a target that a step reports. -/
def diagnosticsAbout (label : String) : Event → List Diagnostic
  | report target ds => if target = label then ds else []
  | _ => []

/-- The entry that a step adds to the log, if it adds one. -/
def entries : Event → List LogEntry
  | entry e => [e]
  | _ => []

end Event

namespace Progress

variable (p : Progress) (es : List Event)

lemma requests_after : (p.after es).requests = p.requests ++ es.flatMap Event.requests := by
  induction es generalizing p with
  | nil => exact (List.append_nil _).symm
  | cons e es ih =>
    refine (ih (p.record e)).trans ?_
    cases e <;> simp [record, Event.requests]

lemma about_after (label : String) :
    (p.after es).ledger.about label =
      p.ledger.about label ++ es.flatMap (Event.diagnosticsAbout label) := by
  induction es generalizing p with
  | nil => exact (List.append_nil _).symm
  | cons e es ih =>
    refine (ih (p.record e)).trans ?_
    cases e with
    | request q | entry e => simp [record, Event.diagnosticsAbout]
    | report target ds =>
      by_cases h : target = label
      · subst h
        simp [record, Event.diagnosticsAbout]
      · simp [record, Event.diagnosticsAbout, h,
          DiagnosticLedger.about_reportAll_of_ne (Ne.symm h)]

lemma entries_after : (p.after es).log.entries = p.log.entries ++ es.flatMap Event.entries := by
  induction es generalizing p with
  | nil => exact (List.append_nil _).symm
  | cons e es ih =>
    refine (ih (p.record e)).trans ?_
    cases e <;> simp [record, Event.entries, Log.add]

end Progress

namespace Assembly

variable {α : Type}

/-- A computation ends with a result and adds the steps of a trace to any progress. -/
def Runs (m : Assembly α) (result : Except Fault α) (es : List Event) : Prop :=
  ∀ p, runFrom p m = (result, p.after es)

lemma runs_pure (x : α) : Runs (pure x) (.ok x) [] := fun _ => rfl

lemma runs_report (label : String) (ds : List Diagnostic) :
    Runs (report label ds) (.ok ()) [.report label ds] :=
  fun _ => rfl

lemma runs_note (label stage message : String) (extra : List (String × Value)) :
    Runs (note label stage message extra) (.ok ()) [.noted label stage message extra] :=
  fun _ => rfl

lemma runs_reportProblems (label : String) (ps : List Problem) :
    Runs (reportProblems label ps) (.ok ()) (Event.problemReports label ps) := by
  intro p
  rw [runFrom_reportProblems]
  -- only the progress is left to compare; one report is one step
  refine congrArg (Prod.mk _) ?_
  induction ps generalizing p with
  | nil => rfl
  | cons q ps ih => exact ih (p.record (.report label [.ofProblem q]))

lemma runs_noteProblems (label stage : String) (ps : List Problem) :
    Runs (noteProblems label stage ps) (.ok ()) (Event.problemNotes label stage ps) := by
  intro p
  change (Except.ok (), _) = (Except.ok (), _)
  refine congrArg (Prod.mk _) ?_
  induction ps generalizing p with
  | nil => rfl
  | cons q ps ih =>
    exact ih (p.record (.entry (.failure operationName (some label) (some stage) q)))

end Assembly

/-!
## How far a build gets

A build stops at the first request that its resolver does not answer.  Of the steps that it would
make if every request were answered, it then makes those up to this request, which counts as made:
`Resolver.reached`.  `Follows r m x es` says that `m`, with the answers of `r`, would end with `x`
after the steps `es`, and gets as far in them as `r` lets it.  Computations that follow each other
follow the steps of both.
-/

/-- The fault by which a step stops a build, if it does. -/
def Event.fault? (r : Resolver) : Event → Option Fault
  | .request q =>
    match r.answer q with
    | .ok _ => none
    | .error e => some e
  | _ => none

namespace Resolver

variable (r : Resolver)

/-- The fault of the first request among some steps that is not answered. -/
def stop? (es : List Event) : Option Fault := es.findSome? (Event.fault? r)

/-- The steps up to the first request that is not answered, which is the last of them. -/
def reached : List Event → List Event
  | [] => []
  | e :: es => e :: if (e.fault? r).isSome then [] else reached es

/-- What a computation comes to that would end with a value after some steps. -/
def outcome {α : Type} (es : List Event) (x : α) : Except Fault α :=
  match r.stop? es with
  | none => .ok x
  | some e => .error e

/-! ### Where a trace stops -/

lemma stop?_append (es fs : List Event) : r.stop? (es ++ fs) = (r.stop? es).or (r.stop? fs) :=
  List.findSome?_append

lemma reached_append (es fs : List Event) :
    r.reached (es ++ fs) = r.reached es ++ if (r.stop? es).isSome then [] else r.reached fs := by
  induction es with
  | nil => rfl
  | cons e es ih =>
    rw [List.cons_append, reached, reached, ih, stop?, stop?, List.findSome?_cons]
    cases e.fault? r <;> simp

lemma reached_of_stop?_eq_none {es : List Event} (h : r.stop? es = none) : r.reached es = es := by
  induction es with
  | nil => rfl
  | cons e es ih =>
    rw [stop?, List.findSome?_cons] at h
    cases he : e.fault? r with
    | some fault => simp [he] at h
    | none =>
      rw [he] at h
      rw [reached, he, ih h]
      rfl

lemma stop?_eq_none_iff {es : List Event} :
    r.stop? es = none ↔ ∀ q ∈ es.flatMap Event.requests, ∃ x, r.answer q = .ok x := by
  rw [stop?, List.findSome?_eq_none_iff]
  constructor
  · intro h q hq
    obtain ⟨e, he, hq⟩ := List.mem_flatMap.mp hq
    cases e with
    | request q' =>
      obtain rfl : q = q' := by simpa [Event.requests] using hq
      cases answered : r.answer q with
      | ok x => exact ⟨x, rfl⟩
      | error fault => simpa [Event.fault?, answered] using h _ he
    | report | entry => simp [Event.requests] at hq
  · intro h e he
    cases e with
    | request q =>
      obtain ⟨x, hx⟩ := h q (List.mem_flatMap.mpr ⟨_, he, List.mem_singleton.mpr rfl⟩)
      simp [Event.fault?, hx]
    | report | entry => rfl

section

variable {r} {made : List Event} {q : Request} {e : Fault}
  (answered : r.stop? made = none) (failed : r.answer q = .error e)

include answered failed

lemma stop?_of_error (rest : List Event) : r.stop? (made ++ .request q :: rest) = some e := by
  rw [stop?_append, answered, stop?, List.findSome?_cons, Event.fault?, failed]
  rfl

lemma reached_of_error (rest : List Event) :
    r.reached (made ++ .request q :: rest) = made ++ [.request q] := by
  rw [reached_append, answered, reached_of_stop?_eq_none r answered, reached, Event.fault?, failed]
  rfl

end

end Resolver

namespace Assembly

variable {α β : Type} {r : Resolver}

/-! ### Following a trace -/

/-- A computation makes the steps of a trace, as far as its requests are answered, and ends with a
value if they all are. -/
def Follows (r : Resolver) (m : Assembly α) (x : α) (es : List Event) : Prop :=
  Runs m (r.outcome es x) (r.reached es)

lemma Follows.bind {m : Assembly α} {f : α → Assembly β} {x : α} {y : β} {es fs : List Event}
    (hm : Follows r m x es) (hf : Follows r (f x) y fs) : Follows r (m >>= f) y (es ++ fs) := by
  intro p
  rw [runFrom_bind, hm p, Resolver.reached_append, Resolver.outcome, Resolver.outcome,
    Resolver.stop?_append]
  cases r.stop? es with
  | none =>
    refine (hf _).trans ?_
    simp [Resolver.outcome]
  | some e => simp

/-- A computation that makes a single step comes first. -/
lemma Follows.step {m : Assembly α} {f : α → Assembly β} {x : α} {y : β} {e : Event}
    {es : List Event} (hm : Follows r m x [e]) (hf : Follows r (f x) y es) :
    Follows r (m >>= f) y (e :: es) :=
  hm.bind hf

/-- Steps without requests are all made. -/
lemma Runs.follows {m : Assembly α} {x : α} {es : List Event} (h : Runs m (.ok x) es)
    (silent : es.flatMap Event.requests = []) : Follows r m x es := by
  have answered : r.stop? es = none := by
    rw [r.stop?_eq_none_iff, silent]
    simp
  rw [Follows, Resolver.outcome, answered, r.reached_of_stop?_eq_none answered]
  exact h

lemma follows_pure (x : α) : Follows r (pure x) x [] := (runs_pure x).follows rfl

/-- A request is made whether or not it is answered. -/
lemma follows_ask {q : Request} {x : q.Answer} (h : ∀ y, r.answer q = .ok y → y = x) :
    Follows r (ask r q) x [.request q] := by
  intro p
  rw [runFrom_ask, Resolver.outcome, Resolver.stop?, Resolver.reached, List.findSome?_cons,
    Event.fault?]
  cases answered : r.answer q with
  | ok y =>
    rw [h y answered]
    rfl
  | error e => rfl

lemma follows_report (label : String) (ds : List Diagnostic) :
    Follows r (report label ds) () [.report label ds] :=
  (runs_report label ds).follows rfl

lemma follows_note (label stage message : String) (extra : List (String × Value)) :
    Follows r (note label stage message extra) () [.noted label stage message extra] :=
  (runs_note label stage message extra).follows rfl

lemma follows_reportProblems (label : String) (ps : List Problem) :
    Follows r (reportProblems label ps) () (Event.problemReports label ps) :=
  (runs_reportProblems label ps).follows <| by
    simp [Event.problemReports, List.flatMap_map, Event.requests]

lemma follows_noteProblems (label stage : String) (ps : List Problem) :
    Follows r (noteProblems label stage ps) () (Event.problemNotes label stage ps) :=
  (runs_noteProblems label stage ps).follows <| by
    simp [Event.problemNotes, List.flatMap_map, Event.requests]

end Assembly

end TargetAssembly
