import TargetAssembly.Proofs.Registry.Answering
import TargetAssembly.Session

/-!
# Builds that share a session

The builds of a session share a registry, which records their requests, a ledger and a log.  None of
this reaches from one target to another: `isolation_exact` says that every build comes to what it
would come to in a new session, and that what a session shows of a target depends on the builds of
this target alone, in their order.  What a session shows of a target is its `View`; a build moves
the view of its own target on and leaves the others as they are, so after a run only the builds of
the target count.
-/

namespace TargetAssembly.Session

/-- The session after one more build. -/
def step (s : Session) (x : TestTarget × Configuration) : Session := (s.assemble x.1 x.2).session

/-- The session after builds, one after the other. -/
def run (s : Session) (steps : List (TestTarget × Configuration)) : Session := steps.foldl step s

/-- What the builds of a session come to, one after the other. -/
def results (s : Session) : List (TestTarget × Configuration) → List (Except Fault Description)
  | [] => []
  | x :: steps => (s.assemble x.1 x.2).result :: results (s.step x) steps

/-- What a session shows of a target. -/
structure View where
  /-- What is reported about the target. -/
  reported : List Diagnostic
  /-- What is logged about the target. -/
  logged : List LogEntry

/-- What a session shows of a target. -/
def view (s : Session) (target : String) : View :=
  { reported := s.ledger.about target, logged := s.log.entriesAbout (some target) }

/-- What a build comes to in a new session. -/
def alone (r : Registry) (x : TestTarget × Configuration) : Except Fault Description :=
  (assemble { registry := r } x.1 x.2).result

/-- The view of a target after a build of it. -/
def View.after (r : Registry) (v : View) (x : TestTarget × Configuration) : View :=
  let reported := v.reported ++ r.answers.diagnostics x.1 x.2
  { reported
    logged := v.logged ++
      (r.answers.entries x.1 x.2 ++ Assembly.closing x.1 reported (alone r x)) }

/-! ## Entries about a target -/

/-- All entries of a build are about its target. -/
lemma target_entries (f : Answers) (a : TestTarget) (c : Configuration) :
    ∀ e ∈ f.entries a c, e.target = some a.label := by
  intro e he
  rw [Answers.entries, Answers.checkedEntries, Answers.linkedEntries] at he
  simp only [List.mem_append, List.mem_cons, List.not_mem_nil, or_false, List.mem_map] at he
  rcases he with ((rfl | rfl) | ⟨d, -, rfl⟩) | he
  · rfl
  · rfl
  · rfl
  · split_ifs at he
    · obtain rfl := List.mem_singleton.mp he
      rfl
    · simp only [List.mem_cons, List.not_mem_nil, or_false] at he
      rcases he with rfl | rfl <;> rfl

lemma target_closing (a : TestTarget) (reported : List Diagnostic)
    (result : Except Fault Description) :
    ∀ e ∈ Assembly.closing a reported result, e.target = some a.label := by
  intro e he
  cases result with
  | ok d =>
    obtain rfl := List.mem_singleton.mp he
    rfl
  | error e => cases he

/-! ## One build -/

variable {s : Session} {x : TestTarget × Configuration}

lemma assemble_of_run {result : Except Fault Description} {finished : Progress}
    (run : Assembly.runFrom { ledger := s.ledger, log := s.log }
      (Assembly.assemble s.registry.resolver x.1 x.2) = (result, finished)) :
    (s.assemble x.1 x.2).result = result ∧ (s.step x).registry = s.registry ∧
      (s.step x).ledger = finished.ledger ∧ (s.step x).log = finished.log := by
  have unchanged : s.registry.resolver.substitute (fun _ => none) = s.registry.resolver := rfl
  simp [step, assemble, unchanged, run]

lemma registry_step : (s.step x).registry = s.registry := (assemble_of_run rfl).2.1

lemma exists_alone (r : Registry) (x : TestTarget × Configuration) : ∃ d, alone r x = .ok d := by
  obtain ⟨d, -, ended⟩ := r.exists_assembled x.1 x.2
  obtain ⟨finished, run, -⟩ := ended {}
  exact ⟨d, (assemble_of_run (s := { registry := r }) run).1⟩

/-- A build comes to the same whatever the session holds. -/
lemma result_eq_alone : (s.assemble x.1 x.2).result = alone s.registry x := by
  obtain ⟨d, -, ended⟩ := s.registry.exists_assembled x.1 x.2
  obtain ⟨finished, run, -⟩ := ended { ledger := s.ledger, log := s.log }
  obtain ⟨finished', run', -⟩ := ended {}
  have fresh : alone s.registry x = .ok d :=
    (assemble_of_run (s := { registry := s.registry }) run').1
  rw [fresh]
  exact (assemble_of_run run).1

/-- A build moves on the view of its target and leaves the other views as they are. -/
lemma view_step (target : String) :
    (s.step x).view target =
      if x.1.label = target then (s.view target).after s.registry x else s.view target := by
  obtain ⟨d, -, ended⟩ := s.registry.exists_assembled x.1 x.2
  obtain ⟨finished, run, -, about, others, entries⟩ := ended { ledger := s.ledger, log := s.log }
  obtain ⟨result, -, ledger, log⟩ := assemble_of_run run
  rw [result_eq_alone] at result
  have logged : (s.step x).log.entriesAbout (some target) =
      s.log.entriesAbout (some target) ++
        if x.1.label = target then s.registry.answers.entries x.1 x.2 ++
          Assembly.closing x.1 (finished.ledger.about x.1.label) (.ok d) else [] := by
    have own : ∀ e ∈ s.registry.answers.entries x.1 x.2 ++
        Assembly.closing x.1 (finished.ledger.about x.1.label) (.ok d),
        e.target = some x.1.label :=
      List.forall_mem_append.mpr ⟨target_entries _ _ _, target_closing _ _ _⟩
    rw [log, Log.entriesAbout, entries, List.append_assoc, List.filter_append, Log.entriesAbout]
    congr 1
    split_ifs with h
    · rw [List.filter_eq_self]
      intro e he
      simp [own e he, h]
    · rw [List.filter_eq_nil_iff]
      intro e he
      simp [own e he, h]
  rw [view, logged, ledger]
  split_ifs with h
  · subst h
    rw [View.after, result, view, about]
  · rw [others target (Ne.symm h), List.append_nil]
    rfl

/-! ## Several builds -/

lemma results_eq_alone (steps : List (TestTarget × Configuration)) :
    s.results steps = steps.map (alone s.registry) := by
  induction steps generalizing s with
  | nil => rfl
  | cons x steps ih => rw [results, result_eq_alone, ih, registry_step, List.map_cons]

/-- The view of a target after a run is what the builds of this target make of it. -/
lemma view_run (steps : List (TestTarget × Configuration)) (target : String) :
    (s.run steps).view target =
      (steps.filter fun x => x.1.label = target).foldl (View.after s.registry) (s.view target) := by
  induction steps generalizing s with
  | nil => rfl
  | cons x steps ih =>
    refine (ih (s := s.step x)).trans ?_
    rw [registry_step, view_step, List.filter_cons]
    by_cases h : x.1.label = target <;> simp [h]

/-! ## Main result -/

/-- Each build of a session comes to a description, which is the one that it comes to in a new
session with the same registry, and so has the same bytes.  What is reported and logged about a
target after a run is the same after every other run from the same session that has the same builds
of this target in the same order, whatever builds of other targets stand between them. -/
theorem isolation_exact (s : Session) (steps : List (TestTarget × Configuration)) :
    List.Forall₂ (fun x result => ∃ d, result = .ok d ∧
      (assemble { registry := s.registry } x.1 x.2).result = .ok d) steps (s.results steps) ∧
    ∀ (others : List (TestTarget × Configuration)) (target : String),
      (steps.filter fun x => x.1.label = target) = (others.filter fun x => x.1.label = target) →
      (s.run steps).ledger.about target = (s.run others).ledger.about target ∧
      (s.run steps).log.entriesAbout (some target) =
        (s.run others).log.entriesAbout (some target) := by
  constructor
  · rw [results_eq_alone, List.forall₂_map_right_iff, List.forall₂_same]
    intro x _
    obtain ⟨d, described⟩ := exists_alone s.registry x
    exact ⟨d, described, described⟩
  · intro others target same
    have views : (s.run steps).view target = (s.run others).view target := by
      rw [view_run, view_run, same]
    exact ⟨congrArg View.reported views, congrArg View.logged views⟩

/-- A build of a target without sources, with or without a host that it would need. -/
def testsBuild (isHosted : Bool) : TestTarget × Configuration :=
  ({ label := "//app:tests", isHosted }, {})

/-- A build of another target. -/
def otherBuild : TestTarget × Configuration := ({ label := "//app:other" }, {})

/-- A build of another target between two builds of a target is not seen among the diagnostics of
this one. -/
theorem isolation_between :
    ([testsBuild false, otherBuild, testsBuild true].filter fun x => x.1.label = "//app:tests") =
      ([testsBuild false, testsBuild true].filter fun x => x.1.label = "//app:tests") ∧
    (run {} [testsBuild false, otherBuild, testsBuild true]).ledger.about "//app:tests" =
      (run {} [testsBuild false, testsBuild true]).ledger.about "//app:tests" :=
  have same := by decide
  ⟨same, ((isolation_exact {} _).2 _ "//app:tests" same).1⟩

end TargetAssembly.Session
