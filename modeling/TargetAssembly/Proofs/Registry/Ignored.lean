import TargetAssembly.Proofs.Registry.Answering
import TargetAssembly.Untyped.Request

/-!
# What a build does not depend on

An application has no host, so that the label of a host and the hosts that a registry knows are
nothing to it; and the architectures that are asked for are checked but not built for.
`ignored_exact` compares whole builds that differ in these inputs alone.  A build hands its target
and its configuration on with its requests, so the requests are compared as they are recorded; the
traces of the two builds are then the same, step by step, up to the target of a request.
-/

namespace TargetAssembly

open Untyped (Call)

/-! ## Requests -/

/-- The same request for another target. -/
def Request.forTarget (t : TestTarget) : Request → Request
  | hostApp _ => hostApp t
  | memleaksLibrary _ => memleaksLibrary t
  | commonLibrary _ frameworks libraries => commonLibrary t frameworks libraries
  | compilation _ library link inputs symbols => compilation t library link inputs symbols
  | bundle _ library link format minimumOs symbols => bundle t library link format minimumOs symbols
  | resourceReport _ => resourceReport t
  | projectExport _ library product settings testHost =>
    projectExport t library product settings testHost
  | testSupport _ configuration => testSupport t configuration

/-- The same request with another configuration, if one is handed over. -/
def Request.withConfiguration (c : Configuration) : Request → Request
  | testSupport target _ => testSupport target c
  | q => q

/-! ## Steps -/

/-- The same step, for another target if it is a request. -/
def Event.forTarget (t : TestTarget) : Event → Event
  | request q => request (q.forTarget t)
  | report target ds => report target ds
  | entry e => entry e

lemma Event.requests_forTarget (t : TestTarget) (es : List Event) :
    (es.map (Event.forTarget t)).flatMap Event.requests =
      (es.flatMap Event.requests).map (Request.forTarget t) := by
  rw [List.flatMap_map, List.map_flatMap]
  exact List.flatMap_congr fun e _ => by cases e <;> rfl

namespace Progress

/-- Progress that has the same reports and the same log as other progress. -/
structure Alike (p q : Progress) : Prop where
  ledger : p.ledger = q.ledger
  log : p.log = q.log

variable {p q : Progress} (h : p.Alike q) (t : TestTarget)

include h

lemma Alike.record (e : Event) : (p.record e).Alike (q.record (e.forTarget t)) := by
  cases e with
  | request x => exact ⟨h.ledger, h.log⟩
  | report target ds => exact ⟨congrArg (·.reportAll target ds) h.ledger, h.log⟩
  | entry e => exact ⟨h.ledger, congrArg (·.add e) h.log⟩

lemma Alike.after (es : List Event) :
    (p.after es).Alike (q.after (es.map (Event.forTarget t))) := by
  induction es generalizing p q with
  | nil => exact h
  | cons e es ih => exact ih (h.record t e)

end Progress

namespace Assembly

/-- What is noted at the end depends on the files and on what was reported. -/
lemma closingNote_of_alike {p q : Progress} (h : p.Alike q) (a : TestTarget) {d e : Description}
    (files : d.filesToBuild = e.filesToBuild) : closingNote a d p = closingNote a e q := by
  rw [closingNote, closingNote, files, h.ledger]

/-- The end of a build depends on what was reported, and adds to the log, whatever was asked for. -/
lemma conclude_of_alike {p q p' : Progress} (h : p.Alike q) {a : TestTarget}
    {cs : List Contribution} {result : Except Fault Description}
    (run : runFrom p (conclude a cs) = (result, p')) :
    ∃ q', runFrom q (conclude a cs) = (result, q') ∧ p'.Alike q' ∧ q'.requests = q.requests := by
  rw [runFrom_conclude, Contribution.runFrom_merge] at run ⊢
  cases merged : (Contribution.mergeAll a.label cs).mapError _ with
  | error e =>
    rw [merged] at run
    cases run
    exact ⟨q, rfl, h, rfl⟩
  | ok d =>
    rw [merged] at run
    cases run
    refine ⟨_, rfl, ?_, rfl⟩
    rw [closingNote_of_alike h a rfl]
    exact h.record a (closingNote a d q)

end Assembly

namespace Registry

variable (r : Registry) (a : TestTarget) (c : Configuration)

section Hosts

variable {a} (application : a.isHosted = false) (hosts : List (String × HostApp))
  (hostLabel : Option String)

include application

lemma contributions_of_application :
    { r with hosts }.answers.contributions { a with hostLabel } c =
      r.answers.contributions a c := by
  -- the mode of the target decides that nothing looks at a host
  cases a
  cases application
  rfl

lemma trace_of_application :
    { r with hosts }.answers.trace { a with hostLabel } c =
      (r.answers.trace a c).map (Event.forTarget { a with hostLabel }) := by
  have silent (stage : String) (ps : List Problem) :
      (Answers.problemsTrace a stage ps).map (Event.forTarget { a with hostLabel }) =
        Answers.problemsTrace a stage ps := by
    simp [Answers.problemsTrace, Event.problemReports, Event.problemNotes, Event.forTarget,
      Function.comp_def]
  have leaks : Answers.librariesTrace { a with hostLabel } c =
      (Answers.librariesTrace a c).map (Event.forTarget { a with hostLabel }) := by
    rw [Answers.librariesTrace, Answers.librariesTrace]
    split_ifs <;> rfl
  simp only [Answers.trace, Answers.commonTrace, List.map_append, silent, leaks]
  cases a
  cases application
  rfl

/-- An application asks for no host, and nothing else is recorded of its target. -/
lemma calls_of_application (t : TestTarget) :
    ((r.answers.requests a c).map (Request.forTarget t)).map Call.ofRequest =
      (r.answers.requests a c).map Call.ofRequest := by
  rw [Answers.requests, Answers.linkRequests, application]
  simp only [Bool.false_eq_true, if_false]
  split_ifs <;> rfl

end Hosts

section Architectures

variable (multiCpus : List String) (cpu : String)

lemma contributions_withArchitectures :
    r.answers.contributions a { c with multiCpus, cpu } = r.answers.contributions a c := rfl

lemma requests_withArchitectures :
    r.answers.requests a { c with multiCpus, cpu } =
      (r.answers.requests a c).map (Request.withConfiguration { c with multiCpus, cpu }) := by
  rw [Answers.requests, Answers.requests, Answers.linkRequests, Answers.linkRequests]
  split_ifs <;> rfl

lemma fst_run_withArchitectures (p : Progress) :
    (Assembly.runFrom p (Assembly.assemble r.resolver a { c with multiCpus, cpu })).1 =
      (Assembly.runFrom p (Assembly.assemble r.resolver a c)).1 := by
  rw [fst_runFrom_assemble, fst_runFrom_assemble, contributions_withArchitectures]

end Architectures

/-! ## Main result -/

/-- An application comes to the same description, whatever label of a host it declares and whatever
hosts the registry knows; its requests are recorded with the same arguments, and the same is
reported and logged.  Any target comes to the same description, whatever architectures are asked
for, and its requests differ only in the configuration that is handed over for its tests. -/
theorem ignored_exact (p : Progress) :
    (a.isHosted = false → ∀ (hosts : List (String × HostApp)) (hostLabel : Option String),
      ∃ (d : Description) (q q' : Progress),
        Assembly.runFrom p (Assembly.assemble r.resolver a c) = (.ok d, q) ∧
        Assembly.runFrom p
          (Assembly.assemble { r with hosts }.resolver { a with hostLabel } c) = (.ok d, q') ∧
        q'.requests.map Call.ofRequest = q.requests.map Call.ofRequest ∧
        q'.ledger = q.ledger ∧ q'.log = q.log) ∧
    ∀ (multiCpus : List String) (cpu : String),
      ∃ (d : Description) (q q' : Progress) (made : List Request),
        Assembly.runFrom p (Assembly.assemble r.resolver a c) = (.ok d, q) ∧
        Assembly.runFrom p
          (Assembly.assemble r.resolver a { c with multiCpus, cpu }) = (.ok d, q') ∧
        q.requests = p.requests ++ made ∧
        q'.requests =
          p.requests ++ made.map (Request.withConfiguration { c with multiCpus, cpu }) := by
  obtain ⟨d, -, ended⟩ := r.exists_assembled a c
  obtain ⟨q, run, requests, -⟩ := ended p
  constructor
  · intro application hosts hostLabel
    -- the steps before the merge are the same up to the target, and so is the end
    have start : p.Alike p := ⟨rfl, rfl⟩
    have concluded := (r.runFrom_assemble a c p).symm.trans run
    obtain ⟨q', run', alike, requests'⟩ :=
      Assembly.conclude_of_alike (start.after { a with hostLabel } (r.answers.trace a c)) concluded
    rw [← r.trace_of_application c application hosts,
      ← r.contributions_of_application c application hosts hostLabel] at run'
    refine ⟨d, q, q', run, (runFrom_assemble _ _ c p).trans run', ?_, alike.ledger.symm,
      alike.log.symm⟩
    rw [requests', Progress.requests_after, Event.requests_forTarget, Answers.requests_trace,
      requests, List.map_append, List.map_append, r.calls_of_application c application]
  · intro multiCpus cpu
    obtain ⟨d', -, ended'⟩ := r.exists_assembled a { c with multiCpus, cpu }
    obtain ⟨q', run', requests', -⟩ := ended' p
    have same := r.fst_run_withArchitectures a c multiCpus cpu p
    rw [run, run'] at same
    cases same
    rw [requests_withArchitectures] at requests'
    exact ⟨d, q, q', _, run, run', requests, requests'⟩

/-- An application with a source. -/
def plainApplication : TestTarget := { label := "//app:tests", srcs := ["Tests.m"] }

/-- A host application that is registered under its label. -/
def knownHost : String × HostApp := ("//app:host", .ofLabel "//app:host" ["UIKit"])

/-- That an application names a host, and one that is known, makes no difference. -/
theorem ignored_knownHost :
    plainApplication.isHosted = false ∧
      ∃ (d : Description) (q q' : Progress),
        Assembly.runFrom {} (Assembly.assemble ({} : Registry).resolver plainApplication {}) =
          (.ok d, q) ∧
        Assembly.runFrom {} (Assembly.assemble ({ hosts := [knownHost] } : Registry).resolver
          { plainApplication with hostLabel := some "//app:host" } {}) = (.ok d, q') ∧
        q'.requests.map Call.ofRequest = q.requests.map Call.ofRequest ∧
        q'.ledger = q.ledger ∧ q'.log = q.log :=
  have application : plainApplication.isHosted = false := rfl
  ⟨application, (ignored_exact {} plainApplication {} {}).1 application [knownHost]
    (some "//app:host")⟩

end Registry

end TargetAssembly
