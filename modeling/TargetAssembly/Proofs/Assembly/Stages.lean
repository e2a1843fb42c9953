import TargetAssembly.Proofs.Assembly.Trace

/-!
# The stages of a build

A resolver that never fails is a function from requests to answers.  `Answers` is that function,
and for each stage of a build it gives a value, the outcome of the stage, and a trace, the steps
that the stage adds.  A resolver that may fail is completed by answers that agree with it wherever
it does not, and the lemma of a stage says that it follows the trace to the outcome as far as the
resolver answers.  All stages before the merge follow the trace to the contributions, so a build
stops at the first request that is not answered, and else ends as the merge of these does.
-/

namespace TargetAssembly

/-- An answer to every request. -/
abbrev Answers := (q : Request) → q.Answer

/-- The resolver that answers every request. -/
def Resolver.answering (f : Answers) : Resolver := ⟨fun q => .ok (f q)⟩

namespace Answers

variable (f : Answers) (a : TestTarget) (c : Configuration)

/-- Answers that agree with a resolver wherever it answers. -/
def Completes (r : Resolver) : Prop := ∀ q x, r.answer q = .ok x → x = f q

lemma completes_answering : f.Completes (.answering f) := by
  intro q x h
  cases h
  rfl

/-! ## Outcomes -/

/-- The host application that a hosted unit test finds. -/
def host : Option HostApp :=
  match a.mode with
  | .hostedUnitTest => f (.hostApp a)
  | .application => none

/-- The libraries that are linked besides those that the target names. -/
def libraries : List Library :=
  ((f.host a).map (·.library)).toList ++ (if c.runMemleaks then [f (.memleaksLibrary a)] else [])

/-- The common library. -/
def common : CommonLibrary := f (.commonLibrary a a.mode.sdkFrameworks (f.libraries a c))

/-- How the target is linked; without its host a hosted unit test is not. -/
def link : Option LinkPlan :=
  match a.mode with
  | .application => some .forApplication
  | .hostedUnitTest => (f.host a).map .forHost

/-- What compiling and linking makes. -/
def compilation (l : LinkPlan) : Compilation :=
  f (.compilation a (f.common a c).library l l.extraLinkInputs .test)

/-- What packaging makes. -/
def bundle (l : LinkPlan) : Bundle :=
  f (.bundle a (f.common a c).library l l.bundleFormat c.minimumOs .test)

/-- What linking and packaging adds to the build. -/
def linked : Assembly.Linked :=
  match f.link a with
  | some l =>
    { contributions := ((f.host a).map fun h => Assembly.filesFrom "host_app" [h.ipa]).toList ++
        [Assembly.filesFrom "compile_and_link" (f.compilation a c l).files,
          Assembly.filesFrom "release_bundling" (f.bundle a c l).files]
      settings := (f.compilation a c l).settings ++ (f.bundle a c l).settings }
  | none => {}

/-- What looking at the resources shows. -/
def resources : ResourceReport := f (.resourceReport a)

/-- The request for the project. -/
def projectRequest : Request :=
  .projectExport a (f.common a c).library a.mode.productType
    ((f.linked a c).settings ++ (f.resources a).settings).eraseDups
    ((f.host a).bind fun h => h.project.map (·.label))

/-- The project. -/
def project : ProjectExport := f (f.projectRequest a c)

/-- What is needed to run the tests. -/
def tests : TestSupport := f (.testSupport a c)

/-- All contributions, in the order of merging. -/
def contributions : List Contribution :=
  Assembly.filesFrom "resources" (ResourceArchive.all a (f.common a c).library) ::
    (f.linked a c).contributions ++
      [{ source := "resource_validation" }, Assembly.fromProject (f.project a c),
        Assembly.fromTests (f.tests a c), Assembly.fromExecution]

/-! ## Traces -/

/-- The steps of looking for the host. -/
def hostTrace : List Event :=
  match a.mode with
  | .hostedUnitTest => [.request (.hostApp a)]
  | .application => []

/-- The steps of finding further libraries. -/
def librariesTrace : List Event := if c.runMemleaks then [.request (.memleaksLibrary a)] else []

/-- The steps of finding the common library. -/
def commonTrace : List Event :=
  librariesTrace a c ++
    [.request (.commonLibrary a a.mode.sdkFrameworks (f.libraries a c)),
      .noted a.label "common" "resolved common library"
        [("has_archive", .bool (f.common a c).hasArchive)]]

/-- The steps of telling what is wrong with the target at a stage. -/
def problemsTrace (stage : String) (ps : List Problem) : List Event :=
  Event.problemReports a.label ps ++ Event.problemNotes a.label stage ps

/-- The steps of deriving how the target is linked. -/
def linkTrace : List Event :=
  match f.link a with
  | some l =>
    [.noted a.label "link" "derived link configuration" [("args", .ofTexts l.extraLinkArgs)]]
  | none => problemsTrace a "link" [(LinkFault.missingHost a.hostLabel).problem]

/-- The steps of linking and packaging. -/
def bundleTrace (l : LinkPlan) : List Event :=
  [.request (.compilation a (f.common a c).library l l.extraLinkInputs .test),
    .report a.label (f.compilation a c l).diagnostics,
    .request (.bundle a (f.common a c).library l l.bundleFormat c.minimumOs .test),
    .report a.label (f.bundle a c l).diagnostics,
    .noted a.label "bundle" ("bundle directory is " ++ (f.bundle a c l).directory)]

/-- The steps of linking and packaging, if the target is linked. -/
def linkedTrace : List Event :=
  f.linkTrace a ++ ((f.link a).map (f.bundleTrace a c)).getD []

/-- The steps before the merge. -/
def trace : List Event :=
  [.noted a.label "classify" ("build mode is " ++ a.mode.text)] ++ (hostTrace a ++
    (f.commonTrace a c ++
      (problemsTrace a "validate" (Validation.problems (f.common a c) c) ++ (f.linkedTrace a c ++
        [.request (.resourceReport a), .report a.label (f.resources a).diagnostics,
          .request (f.projectRequest a c), .request (.testSupport a c)]))))

end Answers

/-! ## Stages -/

namespace Assembly

section

variable {f : Answers} {r : Resolver} (completes : f.Completes r) (a : TestTarget)
  (c : Configuration)

include completes

lemma follows_ask_of_completes (q : Request) : Follows r (ask r q) (f q) [.request q] :=
  follows_ask (completes q)

lemma follows_findHost :
    Follows r (findHost r a) (f.host a) (Answers.hostTrace a) := by
  rw [findHost, Answers.host, Answers.hostTrace]
  cases a.mode with
  | hostedUnitTest => exact follows_ask_of_completes completes _
  | application => exact follows_pure none

lemma follows_furtherLibraries :
    Follows r (furtherLibraries r a c (f.host a)) (f.libraries a c)
      (Answers.librariesTrace a c) := by
  rw [furtherLibraries, Answers.libraries, Answers.librariesTrace]
  cases c.runMemleaks with
  | true => exact (follows_ask_of_completes completes _).bind (follows_pure _)
  | false =>
    simp only [Bool.false_eq_true, if_false, List.append_nil]
    exact follows_pure _

lemma follows_findCommon :
    Follows r (findCommon r a c (f.host a)) (f.common a c) (f.commonTrace a c) := by
  refine (follows_furtherLibraries completes a c).bind ?_
  refine (follows_ask_of_completes completes _).step ?_
  exact (follows_note _ _ _ _).bind (follows_pure _)

omit completes in
lemma follows_validate (common : CommonLibrary) :
    Follows r (validate a c common) ()
      (Answers.problemsTrace a "validate" (Validation.problems common c)) :=
  (follows_reportProblems _ _).bind (follows_noteProblems _ _ _)

omit completes in
lemma follows_findLink : Follows r (findLink a (f.host a)) (f.link a) (f.linkTrace a) := by
  rw [findLink, Answers.linkTrace, Answers.link]
  cases a.mode with
  | application => exact (follows_note _ _ _ _).bind (follows_pure _)
  | hostedUnitTest =>
    cases f.host a with
    | some h => exact (follows_note _ _ _ _).bind (follows_pure _)
    | none =>
      -- a missing host is told like any other problem, and there is nothing to link
      refine (follows_reportProblems _ _).bind ?_
      rw [← List.append_nil (Event.problemNotes _ _ _)]
      exact (follows_noteProblems _ _ _).bind (follows_pure none)

lemma follows_linkAndBundle {l : LinkPlan} (hl : f.link a = some l) :
    Follows r (linkAndBundle r a c (f.host a) (f.common a c) l) (f.linked a c)
      (f.bundleTrace a c l) := by
  rw [linkAndBundle, Answers.linked, hl]
  refine (follows_ask_of_completes completes _).step ?_
  refine (follows_report _ _).step ?_
  refine (follows_ask_of_completes completes _).step ?_
  refine (follows_report _ _).step ?_
  exact (follows_note _ _ _ _).bind (follows_pure _)

lemma follows_linkIfPossible :
    Follows r (linkIfPossible r a c (f.host a) (f.common a c)) (f.linked a c)
      (f.linkedTrace a c) := by
  refine (follows_findLink a).bind ?_
  cases hl : f.link a with
  | some l => exact follows_linkAndBundle completes a c hl
  | none =>
    have nothing : f.linked a c = {} := by rw [Answers.linked, hl]
    rw [nothing]
    exact follows_pure _

end

/-! ## The whole -/

/-- All stages before the merge. -/
def gather (a : TestTarget) (c : Configuration) (r : Resolver) : Assembly (List Contribution) := do
  note a.label "classify" ("build mode is " ++ a.mode.text)
  let host ← findHost r a
  let common ← findCommon r a c host
  validate a c common
  let linked ← linkIfPossible r a c host common
  let resources ← ask r (.resourceReport a)
  report a.label resources.diagnostics
  let project ← ask r (.projectExport a common.library a.mode.productType
    (linked.settings ++ resources.settings).eraseDups
    (host.bind fun h => h.project.map (·.label)))
  let tests ← ask r (.testSupport a c)
  return filesFrom "resources" (ResourceArchive.all a common.library) :: linked.contributions ++
    [{ source := "resource_validation" }, fromProject project, fromTests tests, fromExecution]

/-- The merge of what is gathered, and the note that ends a build. -/
def conclude (a : TestTarget) (contributions : List Contribution) : Assembly Description := do
  let d ← merge a.label contributions
  note a.label "aggregate" "assembled target description"
    [("files", .int d.filesToBuild.size), ("errors", .int (← errorCount a.label))]
  return d

lemma assemble_eq (a : TestTarget) (c : Configuration) (r : Resolver) :
    assemble r a c = gather a c r >>= conclude a := by
  simp only [assemble, gather, conclude, bind_assoc, pure_bind]

section

variable {f : Answers} {r : Resolver} (completes : f.Completes r) (a : TestTarget)
  (c : Configuration)

include completes

lemma follows_gather : Follows r (gather a c r) (f.contributions a c) (f.trace a c) := by
  refine (follows_note _ _ _ _).bind ?_
  refine (follows_findHost completes a).bind ?_
  refine (follows_findCommon completes a c).bind ?_
  refine (follows_validate a c _).bind ?_
  refine (follows_linkIfPossible completes a c).bind ?_
  refine (follows_ask_of_completes completes _).step ?_
  refine (follows_report _ _).step ?_
  refine (follows_ask_of_completes completes _).step ?_
  exact (follows_ask_of_completes completes _).step (follows_pure _)

/-- A build all of whose requests are answered adds its trace, and ends as the merge of its
contributions does. -/
lemma runFrom_assemble_of_answered (answered : r.stop? (f.trace a c) = none) (p : Progress) :
    runFrom p (assemble r a c) =
      runFrom (p.after (f.trace a c)) (conclude a (f.contributions a c)) := by
  have gathered := follows_gather completes a c p
  rw [Resolver.outcome, answered, r.reached_of_stop?_eq_none answered] at gathered
  rw [assemble_eq, runFrom_bind, gathered]

/-- A build of which a request is not answered stops there. -/
lemma runFrom_assemble_of_stop {e : Fault} (stop : r.stop? (f.trace a c) = some e) (p : Progress) :
    runFrom p (assemble r a c) = (.error e, p.after (r.reached (f.trace a c))) := by
  have gathered := follows_gather completes a c p
  rw [Resolver.outcome, stop] at gathered
  rw [assemble_eq, runFrom_bind, gathered]

end

/-- A build whose requests are answered adds its trace, and ends as the merge of its contributions
does. -/
lemma runFrom_assemble (f : Answers) (a : TestTarget) (c : Configuration) (p : Progress) :
    runFrom p (assemble (.answering f) a c) =
      runFrom (p.after (f.trace a c)) (conclude a (f.contributions a c)) := by
  refine runFrom_assemble_of_answered f.completes_answering a c ?_ p
  exact (Resolver.stop?_eq_none_iff _).mpr fun q _ => ⟨f q, rfl⟩

end Assembly

end TargetAssembly
