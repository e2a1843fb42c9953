import Mathlib.Tactic.Lemma
import TargetAssembly.LinkPlan
import TargetAssembly.Proofs.Assembly.Interruption
import TargetAssembly.Resolver.Registry

/-!
# Builds from a registry

A registry answers every request that a build makes: the one operation at which it can fail fills a
template, and a build asks for the templates of applications and of unit tests only.  So a build
from a registry is a build with total answers, `Registry.answers`, and always ends with the
description that these yield.
-/

namespace TargetAssembly.Template

/-!
## Templates with a plain field

Text without braces stands in a filled template as it stands in the template, and a field that is
nothing but the name gives way to it.  So the templates of bundles can be filled with every name.
-/

variable (expand : List Char → Except Failure (List Char)) (value : List Char)

/-- Text without braces. -/
def Plain (cs : List Char) : Prop := ∀ c ∈ cs, c ≠ '\x7b' ∧ c ≠ '\x7d'

lemma fillFrom_char {c : Char} (plain : c ≠ '\x7b' ∧ c ≠ '\x7d') (fuel : Nat) (rest : List Char) :
    fillFrom expand value (fuel + 1) (c :: rest) =
      (fillFrom expand value fuel rest).map (c :: ·) := by
  have hc : ¬ (c = '\x7b' ∨ c = '\x7d') := not_or.mpr plain
  simp only [fillFrom, if_neg hc]

lemma fillFrom_plain {cs : List Char} (plain : Plain cs) (fuel : Nat) (rest : List Char) :
    fillFrom expand value (cs.length + fuel) (cs ++ rest) =
      (fillFrom expand value fuel rest).map (cs ++ ·) := by
  induction cs with
  | nil =>
    rw [List.length_nil, Nat.zero_add, List.nil_append]
    cases fillFrom expand value fuel rest <;> rfl
  | cons c cs ih =>
    have shown := ih fun c hc => plain c (List.mem_cons_of_mem _ hc)
    rw [List.length_cons, Nat.add_right_comm, List.cons_append,
      fillFrom_char _ _ (plain c List.mem_cons_self), shown]
    cases fillFrom expand value fuel rest <;> rfl

lemma fillFrom_name (fuel : Nat) (rest : List Char) :
    fillFrom expand value (fuel + 1) ("\x7bname\x7d".toList ++ rest) =
      (fillFrom expand value fuel rest).map (value ++ ·) := by
  have field : "\x7bname\x7d".toList = ['\x7b', 'n', 'a', 'm', 'e', '\x7d'] := by decide
  rw [field]
  change (fillFrom expand value fuel rest).bind (fun filled => .ok (value ++ filled)) = _
  cases fillFrom expand value fuel rest <;> rfl

/-- A name stands where its field stands. -/
lemma fill_name {front back : String} (hf : Plain front.toList) (hb : Plain back.toList)
    (name : String) :
    fill (front ++ "\x7bname\x7d" ++ back) name = .ok (front ++ name ++ back) := by
  have size : (front ++ "\x7bname\x7d" ++ back).toList.length =
      front.toList.length + (back.toList.length + 5 + 1) := by
    simp
  have ending : ∀ expand, fillFrom expand name.toList (back.toList.length + 5) back.toList =
      .ok back.toList := by
    intro expand
    have shown := fillFrom_plain expand name.toList hb 5 []
    rw [List.append_nil] at shown
    rw [shown]
    exact congrArg Except.ok (List.append_nil _)
  have filled : fillNested name.toList 2 (front ++ "\x7bname\x7d" ++ back).toList =
      .ok (front.toList ++ (name.toList ++ back.toList)) := by
    rw [fillNested, size, String.toList_append, String.toList_append, List.append_assoc,
      fillFrom_plain _ _ hf, fillFrom_name, ending]
    rfl
  rw [fill, filled]
  refine congrArg Except.ok (String.toList_injective ?_)
  simp

/-! ### The templates of bundles -/

/-- The directory of the bundle of an application. -/
lemma fill_appBundleFormat (name : String) :
    fill appBundleFormat name = .ok ("Payload/" ++ name ++ ".app") := by
  have parts : appBundleFormat = "Payload/" ++ "\x7bname\x7d" ++ ".app" := by decide
  rw [parts]
  exact fill_name (by simp [Plain]) (by simp [Plain]) name

/-- The directory of the bundle of a unit test. -/
lemma fill_xctestBundleFormat (name : String) :
    fill xctestBundleFormat name = .ok ("Payload/" ++ name ++ ".xctest") := by
  have parts : xctestBundleFormat = "Payload/" ++ "\x7bname\x7d" ++ ".xctest" := by decide
  rw [parts]
  exact fill_name (by simp [Plain]) (by simp [Plain]) name

end TargetAssembly.Template

namespace TargetAssembly.Registry

variable (r : Registry) (a : TestTarget) (c : Configuration)

/-- The answers of a registry.  A template that cannot be filled, which no build asks for, counts as
one that gives no directory. -/
def answers : Answers
  | .hostApp a => r.hostOf a
  | .memleaksLibrary _ => r.memleaks
  | .commonLibrary a frameworks libraries => r.commonLibrary a frameworks libraries
  | .compilation _ library link _ _ => compilation library link
  | .bundle a _ link format minimumOs symbols =>
    ((bundle a link format minimumOs symbols).toOption).getD { directory := "" }
  | .resourceReport a => resourceReport a
  | .projectExport a _ product settings testHost => projectExport a product settings testHost
  | .testSupport a c => testSupport a c

lemma completes_answers : r.answers.Completes r.resolver := by
  intro q x h
  cases q with
  | bundle a library link format minimumOs symbols =>
    simp only [resolver, answer] at h
    rw [answers]
    cases packed : bundle a link format minimumOs symbols with
    | ok b =>
      rw [packed] at h
      cases h
      rfl
    | error e =>
      rw [packed] at h
      cases h
  | hostApp | memleaksLibrary | commonLibrary | compilation | resourceReport | projectExport
  | testSupport =>
    cases h
    rfl

/-! ## Every request is answered -/

/-- The directory of the bundle of a target, by the way in which it is built. -/
def bundleDirectory : String :=
  "Payload/" ++ a.name ++ if a.isHosted then ".xctest" else ".app"

lemma fill_plan (linked : ¬ r.answers.Hostless a) :
    Template.fill (r.answers.plan a).bundleFormat a.name = .ok (bundleDirectory a) := by
  rw [bundleDirectory, Answers.plan, Answers.host, Answers.mode_eq]
  cases hosted : a.isHosted with
  | false => exact Template.fill_appBundleFormat a.name
  | true =>
    cases found : r.answers (.hostApp a) with
    | none => exact absurd ⟨hosted, found⟩ linked
    | some h =>
      simp only [if_true]
      exact Template.fill_xctestBundleFormat a.name

/-- The bundle of a target that is linked; its format is that of its link plan. -/
lemma bundle_plan (linked : ¬ r.answers.Hostless a) :
    bundle a (r.answers.plan a) (r.answers.plan a).bundleFormat c.minimumOs .test =
      .ok { directory := bundleDirectory a
            files := [packageOf a, symbolsNamed a "test"]
            settings := [(minimumOsSetting, c.minimumOs)] } := by
  rw [bundle, r.fill_plan a linked, formatMismatch, if_pos rfl]
  rfl

lemma answers_bundle (linked : ¬ r.answers.Hostless a) :
    r.answers.bundle a c (r.answers.plan a) =
      { directory := bundleDirectory a
        files := [packageOf a, symbolsNamed a "test"]
        settings := [(minimumOsSetting, c.minimumOs)] } := by
  rw [Answers.bundle, answers, r.bundle_plan a c linked]
  rfl

lemma answered : ∀ q ∈ r.answers.requests a c, ∃ x, r.resolver.answer q = .ok x := by
  intro q asked
  cases q with
  | bundle b library link format minimumOs symbols =>
    -- the only request of this kind is that for the target and its plan
    have made : ¬ r.answers.Hostless a ∧ b = a ∧ link = r.answers.plan a ∧
        format = (r.answers.plan a).bundleFormat ∧ minimumOs = c.minimumOs ∧ symbols = .test := by
      simp only [Answers.requests, Answers.linkRequests] at asked
      split_ifs at asked with hosted leaks hostless <;> simp_all
    obtain ⟨linked, rfl, rfl, rfl, rfl, rfl⟩ := made
    exact ⟨_, congrArg (Except.mapError Fault.template) (r.bundle_plan b c linked)⟩
  | hostApp | memleaksLibrary | commonLibrary | compilation | resourceReport | projectExport
  | testSupport => exact ⟨_, rfl⟩

/-! ## The end of a build -/

/-- A build from a registry makes all its steps and then merges. -/
lemma runFrom_assemble (p : Progress) :
    Assembly.runFrom p (Assembly.assemble r.resolver a c) =
      Assembly.runFrom (p.after (r.answers.trace a c))
        (Assembly.conclude a (r.answers.contributions a c)) := by
  refine Assembly.runFrom_assemble_of_answered r.completes_answers a c ?_ p
  rw [Resolver.stop?_eq_none_iff, Answers.requests_trace]
  exact r.answered a c

lemma fst_runFrom_assemble (p : Progress) :
    (Assembly.runFrom p (Assembly.assemble r.resolver a c)).1 =
      (Assembly.runFrom p (Assembly.merge a.label (r.answers.contributions a c))).1 := by
  rw [runFrom_assemble, Assembly.runFrom_conclude_fst, Contribution.runFrom_merge,
    Contribution.runFrom_merge]

/-- A build from a registry ends with a description, the same whatever was done before.  It has then
made all requests, and has reported and logged all that there is to report and to log. -/
lemma exists_assembled :
    ∃ d, r.answers.Yields a c d ∧ ∀ p, ∃ finished,
      Assembly.runFrom p (Assembly.assemble r.resolver a c) = (.ok d, finished) ∧
      finished.requests = p.requests ++ r.answers.requests a c ∧
      finished.ledger.about a.label = p.ledger.about a.label ++ r.answers.diagnostics a c ∧
      (∀ label ≠ a.label, finished.ledger.about label = p.ledger.about label) ∧
      finished.log.entries = p.log.entries ++ r.answers.entries a c ++
        Assembly.closing a (finished.ledger.about a.label) (.ok d) := by
  have described : ∃ d, r.answers.Yields a c d ∧ ∀ p,
      (Assembly.runFrom p (Assembly.merge a.label (r.answers.contributions a c))).1 = .ok d := by
    rcases Assembly.assemble_cases r.answers a c {} rfl rfl rfl with
      ⟨-, d, ended, yields⟩ | ⟨same, -⟩
    · rw [Assembly.runFrom_assemble, Assembly.runFrom_conclude_fst, Contribution.runFrom_merge]
        at ended
      refine ⟨d, yields, fun p => ?_⟩
      rw [Contribution.runFrom_merge]
      exact ended
    · exact absurd (by simp [Capability.kind]) same
  obtain ⟨d, yields, merged⟩ := described
  refine ⟨d, yields, fun p => ?_⟩
  obtain ⟨result, finished, run, result_eq, rest⟩ :=
    Assembly.exists_finished r.completes_answers a c (r.answered a c) p
  rw [merged p] at result_eq
  subst result_eq
  exact ⟨finished, run, rest⟩

end TargetAssembly.Registry
