import Mathlib.Data.List.Perm.Basic
import TargetAssembly.Proofs.KeyedLookup
import TargetAssembly.Proofs.Registry.Answering
import TargetAssembly.Proofs.Text.Quoted

/-!
# Ill-formed targets

A target is ill-formed if it has no sources, if two architectures are asked for at once, if it is a
hosted unit test without a known host, or if it declares a resource more than once.  These are
conditions on the declaration, the configuration and the registry alone.  `reported_iff_illFormed`
says that a build from a registry reports exactly them, each once and in this order, and that it
ends with a description all the same.
-/

namespace TargetAssembly

/-- A target that declares no sources of either kind. -/
def TestTarget.Sourceless (a : TestTarget) : Prop := a.srcs = [] ∧ a.nonArcSrcs = []

instance (a : TestTarget) : Decidable a.Sourceless := inferInstanceAs (Decidable (_ ∧ _))

/-- A path that a target declares more than once among its resources of all kinds. -/
def TestTarget.Repeats (a : TestTarget) (path : String) : Prop :=
  1 < (a.resources ++ a.storyboards ++ a.dataModels).count path

/-- A configuration that names two different architectures. -/
def Configuration.Mixed (c : Configuration) : Prop :=
  ∃ x ∈ c.multiCpus, ∃ y ∈ c.multiCpus, x ≠ y

instance (c : Configuration) : Decidable c.Mixed :=
  inferInstanceAs (Decidable (∃ x ∈ c.multiCpus, ∃ y ∈ c.multiCpus, x ≠ y))

namespace Registry

variable (r : Registry) (a : TestTarget) (c : Configuration)

/-- A hosted unit test that names no host, or one that is not registered. -/
def Unhosted : Prop := a.isHosted = true ∧ ∀ label ∈ a.hostLabel, label ∉ Keyed.keys r.hosts

instance : Decidable (r.Unhosted a) := inferInstanceAs (Decidable (_ ∧ _))

/-! ## The conditions as a build sees them -/

lemma isSome_archiveOf_iff : (archiveOf a).isSome = true ↔ ¬ a.Sourceless := by
  have sources : sourcesOf a = [] ↔ a.Sourceless := by
    rw [sourcesOf, List.map_eq_nil_iff, List.append_eq_nil_iff]
    rfl
  rw [archiveOf, ← sources, ← List.isEmpty_iff]
  split_ifs with h <;> simp [h]

lemma hasArchive_iff : (r.answers.common a c).hasArchive = true ↔ ¬ a.Sourceless :=
  isSome_archiveOf_iff a

lemma hostless_iff : r.answers.Hostless a ↔ r.Unhosted a := by
  refine and_congr_right fun _ => ?_
  change r.hostOf a = none ↔ _
  rw [hostOf]
  cases a.hostLabel with
  | none => simp
  | some label =>
    rw [Option.bind_some, Keyed.lookup_eq_none_iff]
    simp

lemma mem_repeated {paths : List String} {path : String} :
    path ∈ repeated paths ↔ 1 < paths.count path := by
  rw [repeated, List.mem_mergeSort, List.mem_filter, List.mem_eraseDups, decide_eq_true_eq]
  -- what occurs more than once occurs
  exact and_iff_right_of_imp fun many => List.count_pos_iff.mp (Nat.zero_lt_of_lt many)

/-- The repeated texts ascend, so that each of them stands there once. -/
lemma pairwise_repeated (paths : List String) : (repeated paths).Pairwise (· < ·) := by
  have sorted : (repeated paths).Pairwise fun p q => decide (p ≤ q) = true := by
    refine List.pairwise_mergeSort (fun p q s => ?_) (fun p q => ?_) _
    · simpa using String.le_trans
    · simpa using String.le_total p q
  have nodup : (repeated paths).Nodup :=
    (List.mergeSort_perm _ _).nodup_iff.mpr ((nodup_eraseDups paths).filter _)
  refine (sorted.and nodup).imp fun {p q} h => ?_
  exact Std.lt_of_le_of_ne (of_decide_eq_true h.1) h.2

/-! ## What is reported -/

lemma linkDiagnostics_eq :
    r.answers.linkDiagnostics a c = if r.Unhosted a then [Answers.missingHost] else [] := by
  rw [Answers.linkDiagnostics]
  by_cases hostless : r.answers.Hostless a
  · rw [if_pos hostless, if_pos ((r.hostless_iff a).mp hostless)]
  · rw [if_neg hostless, if_neg (mt (r.hostless_iff a).mpr hostless), r.answers_bundle a c hostless]
    rfl

lemma diagnostics_eq :
    r.answers.diagnostics a c =
      (if a.Sourceless then [Answers.noSources] else []) ++
        (if c.Mixed then [Answers.severalArchitectures] else []) ++
        (if r.Unhosted a then [Answers.missingHost] else []) ++
        (repeated (declaredResources a)).map repeatedResource := by
  have sources : (if (r.answers.common a c).hasArchive then [] else [Answers.noSources]) =
      if a.Sourceless then [Answers.noSources] else [] := by
    by_cases h : a.Sourceless
    · rw [if_pos h, if_neg fun archive => (r.hasArchive_iff a c).mp archive h]
    · rw [if_neg h, if_pos ((r.hasArchive_iff a c).mpr h)]
  rw [Answers.diagnostics, Answers.invalid, sources, linkDiagnostics_eq]
  rfl

/-- All that is reported is an error, and none of it is about the format of a bundle. -/
lemma error_of_mem_diagnostics {x : Diagnostic} (reported : x ∈ r.answers.diagnostics a c) :
    x.severity = .error ∧ ∀ format linked, x ≠ mismatchOf format linked := by
  -- messages of the other kinds begin with another letter
  have other : ∀ {d : Diagnostic}, d.severity = .error → d.message.toList.head? ≠ some 'b' →
      d.severity = .error ∧ ∀ format linked, d ≠ mismatchOf format linked := by
    rintro d severe differs
    refine ⟨severe, fun format linked same => differs ?_⟩
    simp [same, mismatchOf]
  rw [diagnostics_eq] at reported
  simp only [List.mem_append, List.mem_ite_nil_right, List.mem_singleton, List.mem_map] at reported
  rcases reported with ((⟨-, rfl⟩ | ⟨-, rfl⟩) | ⟨-, rfl⟩) | ⟨path, -, rfl⟩
  · exact other rfl (by simp [Answers.noSources])
  · exact other rfl (by simp [Answers.severalArchitectures])
  · exact other rfl (by simp [Answers.missingHost])
  · exact other rfl (by simp [repeatedResource, repetitionOf])

lemma diagnostics_eq_nil_iff :
    r.answers.diagnostics a c = [] ↔
      ¬ a.Sourceless ∧ ¬ c.Mixed ∧ ¬ r.Unhosted a ∧ ∀ path, ¬ a.Repeats path := by
  have none_repeated :
      repeated (declaredResources a) = [] ↔ ∀ path, ¬ a.Repeats path := by
    rw [List.eq_nil_iff_forall_not_mem]
    exact forall_congr' fun path => not_congr mem_repeated
  rw [diagnostics_eq, List.append_eq_nil_iff, List.append_eq_nil_iff, List.append_eq_nil_iff,
    List.map_eq_nil_iff, none_repeated]
  simp only [ite_eq_right_iff, List.cons_ne_nil, imp_false, and_assoc]

/-! ## Main result -/

/-- A build from a registry with no earlier reports ends with a description.  It reports that there
are no sources, that several architectures are asked for, and that the host is missing, each just if
it is so, and then every path that is declared more than once, in ascending order; all these are
errors, and there are no others.  So the target has errors just if it is ill-formed. -/
theorem reported_iff_illFormed (requests : List Request) (log : Log) :
    ∃ (d : Description) (q : Progress) (paths : List String),
      Assembly.runFrom { requests, log } (Assembly.assemble r.resolver a c) = (.ok d, q) ∧
      q.ledger.about a.label =
        (if a.Sourceless then [Answers.noSources] else []) ++
          (if c.Mixed then [Answers.severalArchitectures] else []) ++
          (if r.Unhosted a then [Answers.missingHost] else []) ++ paths.map repeatedResource ∧
      paths.Pairwise (· < ·) ∧ (∀ path, path ∈ paths ↔ a.Repeats path) ∧
      (∀ x ∈ q.ledger.about a.label,
        x.severity = .error ∧ ∀ format linked, x ≠ mismatchOf format linked) ∧
      (q.ledger.hasErrorsAbout a.label = false ↔
        ¬ a.Sourceless ∧ ¬ c.Mixed ∧ ¬ r.Unhosted a ∧ ∀ path, ¬ a.Repeats path) := by
  obtain ⟨d, -, finishes⟩ := r.exists_assembled a c
  obtain ⟨q, run, -, reported, -⟩ := finishes { requests, log }
  -- nothing was reported before
  replace reported : q.ledger.about a.label = r.answers.diagnostics a c := reported
  have errors : q.ledger.errorsAbout a.label = r.answers.diagnostics a c := by
    rw [DiagnosticLedger.errorsAbout, reported, List.filter_eq_self]
    intro x hx
    exact decide_eq_true (r.error_of_mem_diagnostics a c hx).1
  refine ⟨d, q, repeated (declaredResources a), run, ?_, pairwise_repeated _,
    fun path => mem_repeated, ?_, ?_⟩
  · rw [reported, diagnostics_eq]
  · rw [reported]
    exact fun x hx => r.error_of_mem_diagnostics a c hx
  · rw [DiagnosticLedger.hasErrorsAbout, errors, Bool.not_eq_false', List.isEmpty_iff,
      diagnostics_eq_nil_iff]

end Registry

/-!
## Repeated resources

The resources of a target are declared in three lists, and a path that occurs more than once in them
is reported.  Quotes tell paths apart, so that a report names one path, and every repeated path has
one report, in ascending order of the code points.  `resourceReport_exact` says this, and that only
the paths matter and not where they are declared.
-/

/-! ### The order of texts -/

/-- Texts are ordered by their code points. -/
lemma codePoints_lt_iff {s t : String} :
    s.toList.map Char.toNat < t.toList.map Char.toNat ↔ s < t := by
  have lists (cs ds : List Char) : cs.map Char.toNat < ds.map Char.toNat ↔ cs < ds := by
    induction cs generalizing ds with
    | nil => cases ds <;> simp
    | cons c cs ih =>
      cases ds with
      | nil => simp
      | cons d ds =>
        rw [List.map_cons, List.map_cons, List.cons_lt_cons_iff, List.cons_lt_cons_iff, ih,
          Char.toNat_inj]
        rfl
  exact lists s.toList t.toList

lemma nodup_of_ascending {l : List String} (hl : l.Pairwise (· < ·)) : l.Nodup := by
  refine hl.imp fun {s t} less same => ?_
  rw [same] at less
  exact String.lt_irrefl t less

/-- A list in ascending order is determined by what stands in it. -/
lemma eq_of_ascending {l m : List String} (hl : l.Pairwise (· < ·)) (hm : m.Pairwise (· < ·))
    (same : ∀ s, s ∈ l ↔ s ∈ m) : l = m := by
  have perm : l.Perm m :=
    (List.perm_ext_iff_of_nodup (nodup_of_ascending hl) (nodup_of_ascending hm)).mpr same
  exact perm.eq_of_pairwise (fun s t _ _ less more => absurd more (String.lt_asymm less)) hl hm

namespace Registry

/-! ### Repeated paths -/

lemma repeatedResource_injective : Function.Injective repeatedResource := by
  intro p q same
  have messages : "resource " ++ Text.quoted p ++ " is declared more than once" =
      "resource " ++ Text.quoted q ++ " is declared more than once" :=
    congrArg Diagnostic.message same
  rw [String.append_left_inj, String.append_right_inj] at messages
  exact Text.quoted_injective messages

/-- Which paths are repeated does not depend on their order. -/
lemma repeated_perm {paths paths' : List String} (order : paths.Perm paths') :
    repeated paths = repeated paths' := by
  refine eq_of_ascending (pairwise_repeated _) (pairwise_repeated _) fun path => ?_
  rw [mem_repeated, mem_repeated, order.count_eq]

lemma repeated_eq_nil_iff {paths : List String} : repeated paths = [] ↔ paths.Nodup := by
  rw [List.eq_nil_iff_forall_not_mem, List.nodup_iff_count_le_one]
  exact forall_congr' fun path => by rw [mem_repeated, Nat.not_lt]

/-! ### Main result -/

/-- The report on the resources of a target is the same from every registry.  It names the paths
that are declared more than once, in strictly ascending order of their code points, each of them
once and as an error.  Any target with the same paths, in whatever order and in whichever of the
three lists, has the same report, and the report is empty just if no path is declared twice. -/
theorem resourceReport_exact (a : TestTarget) :
    ∃ (ds : List Diagnostic) (paths : List String),
      (∀ r : Registry, r.answer (.resourceReport a) = .ok { diagnostics := ds }) ∧
      ds = paths.map repeatedResource ∧
      (paths.map fun path => path.toList.map Char.toNat).Pairwise (· < ·) ∧
      (∀ path, path ∈ paths ↔ a.Repeats path) ∧
      (∀ path, (a.Repeats path → ds.count (repeatedResource path) = 1) ∧
        (¬ a.Repeats path → repeatedResource path ∉ ds)) ∧
      (∀ d ∈ ds, d.severity = .error) ∧
      (∀ (r : Registry) (b : TestTarget),
        (a.resources ++ a.storyboards ++ a.dataModels).Perm
          (b.resources ++ b.storyboards ++ b.dataModels) →
        r.answer (.resourceReport b) = .ok { diagnostics := ds }) ∧
      (ds = [] ↔ (a.resources ++ a.storyboards ++ a.dataModels).Nodup) := by
  refine ⟨_, repeated (declaredResources a), fun _ => rfl, rfl, ?_, fun path => mem_repeated,
    fun path => ⟨fun twice => ?_, fun once => ?_⟩, ?_, fun r b order => ?_, ?_⟩
  · rw [List.pairwise_map]
    exact (pairwise_repeated _).imp codePoints_lt_iff.mpr
  · rw [List.count_map_of_injective _ _ repeatedResource_injective]
    exact List.count_eq_one_of_mem (nodup_of_ascending (pairwise_repeated _))
      (mem_repeated.mpr twice)
  · rw [List.mem_map_of_injective repeatedResource_injective, mem_repeated]
    exact once
  · intro d hd
    obtain ⟨path, -, rfl⟩ := List.mem_map.mp hd
    rfl
  · have same : repeated (declaredResources a) = repeated (declaredResources b) :=
      repeated_perm order
    rw [same]
    rfl
  · rw [List.map_eq_nil_iff]
    exact repeated_eq_nil_iff

/-- A target with resources in all lists, two of which are repeated across them. -/
def scattered : TestTarget :=
  { label := "//app:tests", resources := ["é.png", "b.png", "é.png"], storyboards := ["a.png"],
    dataModels := ["b.png", "é.png"] }

/-- A target with the same resources in one list. -/
def gathered : TestTarget :=
  { label := "//app:more", storyboards := ["a.png", "b.png", "b.png", "é.png", "é.png", "é.png"] }

/-- The two targets have the same report, which names each repeated path once. -/
theorem resourceReport_scattered :
    (scattered.resources ++ scattered.storyboards ++ scattered.dataModels).Perm
        (gathered.resources ++ gathered.storyboards ++ gathered.dataModels) ∧
      ∃ ds, ({} : Registry).answer (.resourceReport scattered) = .ok { diagnostics := ds } ∧
        ({} : Registry).answer (.resourceReport gathered) = .ok { diagnostics := ds } ∧
        ds.count (repeatedResource "b.png") = 1 ∧ ds.count (repeatedResource "é.png") = 1 ∧
        repeatedResource "a.png" ∉ ds := by
  have order : (scattered.resources ++ scattered.storyboards ++ scattered.dataModels).Perm
      (gathered.resources ++ gathered.storyboards ++ gathered.dataModels) := by decide
  obtain ⟨ds, paths, answered, -, -, -, named, -, moved, -⟩ := resourceReport_exact scattered
  refine ⟨order, ds, answered {}, moved {} gathered order, (named _).1 ?_, (named _).1 ?_,
    (named _).2 ?_⟩ <;> unfold TestTarget.Repeats <;> decide

end Registry

end TargetAssembly
