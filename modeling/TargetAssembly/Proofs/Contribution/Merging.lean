import Mathlib.Data.List.Count
import TargetAssembly.Assembly
import TargetAssembly.Proofs.Contribution.Steps

/-!
# What contributions merge to

Merging fails exactly if an item, a kind of capability or the program, is supplied twice, and then
names the first item that is supplied again with the two sources of it.  Otherwise the description
is the union of the contributions.  `merge_exact` states both for the merge as the last step of a
build, where a conflict is raised as a problem.
-/

namespace TargetAssembly

/-! ## Reading capabilities out of a description -/

namespace Description

lemma executionInfo_eq_some_iff {d : Description} {e : ExecutionInfo} :
    d.executionInfo = some e ↔
      d.capabilities.lookup .executionInfo = some (.capability (.executionInfo e)) := by
  rw [executionInfo]
  split <;> simp_all

lemma runfiles_eq_some_iff {d : Description} {r : Runfiles} :
    d.runfiles = some r ↔ d.capabilities.lookup .runfiles = some (.capability (.runfiles r)) := by
  rw [runfiles]
  split <;> simp_all

lemma instrumentedFiles_eq_some_iff {d : Description} {f : InstrumentedFiles} :
    d.instrumentedFiles = some f ↔
      d.capabilities.lookup .instrumentedFiles = some (.capability (.instrumentedFiles f)) := by
  rw [instrumentedFiles]
  split <;> simp_all

lemma ideProject_eq_some_iff {d : Description} {p : ProjectInfo} :
    d.ideProject = some p ↔
      d.capabilities.lookup .ideProject = some (.capability (.ideProject p)) := by
  rw [ideProject]
  split <;> simp_all

end Description

namespace Contribution

open Keyed (keys)

/-- The items that a contribution supplies, each with its source, in the order of merging. -/
def claims (c : Contribution) : List (Item × String) :=
  ((c.capabilities.filterMap Supply.kind?).map fun k => (.capability k, c.source)) ++
    (c.executable.map fun _ => (.executable, c.source)).toList

/-- In a row of claims an item that `first` supplied is supplied again by `second`, and no item is
before that. -/
def FirstConflict (row : List (Item × String)) (item : Item) (first second : String) : Prop :=
  ∃ before after, row = before ++ (item, second) :: after ∧ (keys before).Nodup ∧
    before.lookup item = some first

/-- A kind of capability is supplied twice, by one contribution or by two, or two contributions make
a program. -/
def SuppliesTwice (cs : List Contribution) : Prop :=
  (∃ k, 1 < ((cs.flatMap (·.capabilities)).filterMap Supply.kind?).count k) ∨
    1 < (cs.filterMap (·.executable)).length

/-- A description is what contributions come to: under every kind stands what they supply of it, and
what is read out as a capability of a kind is what they supply as such a capability. -/
structure IsUnion (label : String) (cs : List Contribution) (d : Description) : Prop where
  label : d.label = label
  files : d.filesToBuild.toList = (cs.flatMap (·.files.toList)).eraseDups
  kinds : d.kinds = (cs.flatMap (·.capabilities)).filterMap Supply.kind?
  capability : ∀ k s, d.capabilities.lookup k = some s ↔
    s ∈ cs.flatMap (·.capabilities) ∧ s.kind? = some k
  offers : ∀ k, d.offers k = true ↔ ∃ s ∈ cs.flatMap (·.capabilities), s.kind? = some k
  executionInfo : ∀ e, d.executionInfo = some e ↔
    .capability (.executionInfo e) ∈ cs.flatMap (·.capabilities)
  runfiles : ∀ r, d.runfiles = some r ↔ .capability (.runfiles r) ∈ cs.flatMap (·.capabilities)
  instrumentedFiles : ∀ f, d.instrumentedFiles = some f ↔
    .capability (.instrumentedFiles f) ∈ cs.flatMap (·.capabilities)
  ideProject : ∀ p, d.ideProject = some p ↔
    .capability (.ideProject p) ∈ cs.flatMap (·.capabilities)
  extras : d.extras = cs.flatMap (·.extras)
  executable : d.executable.toList = cs.filterMap (·.executable)

/-- The union of contributions: all files, all capabilities under their kinds, all extra values,
and the first program. -/
def union (label : String) (cs : List Contribution) : Description :=
  { label
    filesToBuild := ((cs.map (·.files)).foldl ArtifactSetBuilder.addTransitive {}).build
    capabilities := (cs.flatMap (·.capabilities)).filterMap fun s => s.kind?.map (·, s)
    extras := cs.flatMap (·.extras)
    executable := (cs.filterMap (·.executable)).head? }

/-! ## Runs -/

lemma keys_append {κ α : Type} (l m : List (κ × α)) : keys (l ++ m) = keys l ++ keys m :=
  List.map_append

lemma claimsOf_append (ps qs : List (Part × String)) :
    claimsOf (ps ++ qs) = claimsOf ps ++ claimsOf qs :=
  List.filterMap_append

/-- A run over parts, after `pre` whose items are all different, gathers all parts or stops at the
first item that is supplied again. -/
lemma foldlM_addPart (ps pre : List (Part × String)) (kinded : ∀ p ∈ ps, p.1.Kinded)
    (nodup : (keys (claimsOf pre)).Nodup) :
    ((keys (claimsOf (pre ++ ps))).Nodup ∧
        ps.foldlM addPart (gathered pre) = .ok (gathered (pre ++ ps))) ∨
      ∃ item first second, FirstConflict (claimsOf (pre ++ ps)) item first second ∧
        ps.foldlM addPart (gathered pre) = .error (.suppliedTwice item first second) := by
  induction ps generalizing pre with
  | nil =>
    refine Or.inl ⟨?_, ?_⟩
    · simpa using nodup
    · rw [List.append_nil]
      rfl
  | cons p ps ih =>
    obtain ⟨p, source⟩ := p
    have kinded' : ∀ q ∈ ps, q.1.Kinded := fun q hq => kinded q (List.mem_cons_of_mem _ hq)
    have reassoc : pre ++ (p, source) :: ps = (pre ++ [(p, source)]) ++ ps := by simp
    cases hp : p.item? with
    | none =>
      -- files and extra values claim nothing
      have same : claimsOf (pre ++ [(p, source)]) = claimsOf pre := by
        simp [claimsOf, hp]
      rw [List.foldlM_cons, addPart_of_no_item (kinded _ List.mem_cons_self) hp, reassoc]
      exact ih (pre ++ [(p, source)]) kinded' (by rw [same]; exact nodup)
    | some item =>
      have one : claimsOf [(p, source)] = [(item, source)] := by simp [claimsOf, hp]
      cases old : (claimsOf pre).lookup item with
      | some first =>
        -- the claims before are all different, so this conflict is the first
        right
        refine ⟨item, first, source, ⟨claimsOf pre, claimsOf ps, ?_, nodup, old⟩, ?_⟩
        · rw [reassoc, claimsOf_append, claimsOf_append, one]
          simp
        · rw [List.foldlM_cons, addPart_of_supplied hp old]
          rfl
      | none =>
        have fresh : item ∉ keys (claimsOf pre) := Keyed.lookup_eq_none_iff.mp old
        have nodup' : (keys (claimsOf (pre ++ [(p, source)]))).Nodup := by
          rw [claimsOf_append, one, keys_append]
          refine List.Nodup.append nodup (List.nodup_singleton item) ?_
          simpa [keys] using fresh
        rw [List.foldlM_cons, addPart_of_new hp old, reassoc]
        exact ih (pre ++ [(p, source)]) kinded' nodup'

/-! ## The parts of all contributions -/

lemma claimsOf_parts (c : Contribution) :
    claimsOf (c.parts.map (·, c.source)) = c.claims := by
  have caps : claimsOf ((c.capabilities.map Part.capability).map (·, c.source)) =
      (c.capabilities.filterMap Supply.kind?).map fun k => (Item.capability k, c.source) := by
    simp only [claimsOf, List.filterMap_map, List.map_filterMap]
    refine List.filterMap_congr fun s _ => ?_
    cases hs : s.kind? <;> simp [Part.item?, hs]
  have head : claimsOf [(Part.files c.files, c.source)] = [] := rfl
  have tail : claimsOf [(Part.extras c.extras, c.source)] = [] := rfl
  rw [parts, List.map_cons, ← List.singleton_append, List.map_append, List.map_append,
    claimsOf_append, claimsOf_append, claimsOf_append, caps, head, claims]
  cases c.executable <;> simp [claimsOf, Part.item?]

lemma claimsOf_allParts (cs : List Contribution) : claimsOf (allParts cs) = cs.flatMap claims := by
  induction cs with
  | nil => rfl
  | cons c cs ih =>
    rw [allParts, List.flatMap_cons, claimsOf_append, claimsOf_parts, List.flatMap_cons, ← ih]
    rfl

lemma filterMap_allParts {β : Type} (f : Part → Option β) (cs : List Contribution) :
    ((allParts cs).filterMap fun p => f p.1) = cs.flatMap fun c => c.parts.filterMap f := by
  induction cs with
  | nil => rfl
  | cons c cs ih =>
    rw [allParts, List.flatMap_cons, List.filterMap_append, List.filterMap_map, List.flatMap_cons,
      ← ih]
    rfl

lemma filterMap_parts {β : Type} (f : Part → Option β) (c : Contribution) :
    c.parts.filterMap f = (f (.files c.files)).toList ++
      ((c.capabilities.filterMap fun s => f (.capability s)) ++
        ((c.executable.bind fun a => f (.executable a)).toList ++
          (f (.extras c.extras)).toList)) := by
  have one : ∀ p : Part, [p].filterMap f = (f p).toList := by
    intro p
    cases h : f p <;> simp [h]
  rw [parts, ← List.singleton_append, List.filterMap_append, List.filterMap_append,
    List.filterMap_append, one, one, List.filterMap_map]
  cases c.executable with
  | none => rfl
  | some a =>
    rw [Option.map_some, Option.toList_some, one]
    rfl

lemma files_allParts (cs : List Contribution) :
    ((allParts cs).filterMap fun p => p.1.files?) = cs.map (·.files) := by
  rw [filterMap_allParts, ← List.flatMap_pure_eq_map]
  refine congrArg cs.flatMap (funext fun c => ?_)
  rw [filterMap_parts]
  cases c.executable <;> simp [Part.files?]

lemma kinded_allParts (cs : List Contribution) :
    ((allParts cs).filterMap fun p => p.1.kinded?) =
      (cs.flatMap (·.capabilities)).filterMap fun s => s.kind?.map (·, s) := by
  rw [filterMap_allParts, List.filterMap_flatMap]
  refine congrArg cs.flatMap (funext fun c => ?_)
  rw [filterMap_parts]
  cases c.executable <;> simp [Part.kinded?]

lemma executables_allParts (cs : List Contribution) :
    ((allParts cs).filterMap fun p => p.1.executable?) = cs.filterMap (·.executable) := by
  rw [filterMap_allParts, List.filterMap_eq_flatMap_toList]
  refine congrArg cs.flatMap (funext fun c => ?_)
  rw [filterMap_parts]
  cases c.executable <;> simp [Part.executable?]

lemma extraValues_allParts (cs : List Contribution) :
    ((allParts cs).flatMap fun p => p.1.extraValues) = cs.flatMap (·.extras) := by
  rw [allParts, List.flatMap_assoc]
  refine congrArg cs.flatMap (funext fun c => ?_)
  rw [parts]
  cases c.executable <;> simp [Part.extraValues, List.flatMap_map]

/-- What the parts of all contributions come to is the union of these. -/
lemma description_gathered (label : String) (cs : List Contribution) :
    (gathered (allParts cs)).description label = union label cs := by
  -- a program and a capability are gathered with their sources, which are left out here
  have program : ((allParts cs).filterMap fun p => p.1.executable?.map (·, p.2)).head?.map
      Prod.fst = (cs.filterMap (·.executable)).head? := by
    rw [← executables_allParts, ← List.head?_map, List.map_filterMap]
    simp only [Option.map_map, Function.comp_def, Option.map_id']
  have kinded : ((allParts cs).filterMap fun p => p.1.kinded?.map fun e => (e.1, e.2, p.2)).map
      (fun e => (e.1, e.2.1)) = (cs.flatMap (·.capabilities)).filterMap
        fun s => s.kind?.map (·, s) := by
    rw [← kinded_allParts, List.map_filterMap]
    simp only [Option.map_map, Function.comp_def, Option.map_id']
  simp only [Merged.description, gathered, union, files_allParts, extraValues_allParts, kinded,
    program]

/-! ## The merge -/

lemma kinded_of_mem_allParts {cs : List Contribution}
    (kinded : ∀ c ∈ cs, ∀ s ∈ c.capabilities, ∃ k, s.kind? = some k) :
    ∀ p ∈ allParts cs, p.1.Kinded := by
  rintro ⟨p, source⟩ hp s rfl
  obtain ⟨c, hc, hp⟩ := List.mem_flatMap.mp hp
  obtain ⟨q, hq, heq⟩ := List.mem_map.mp hp
  obtain ⟨rfl, -⟩ := Prod.mk.inj heq
  refine kinded c hc s ?_
  cases he : c.executable <;> simpa [parts, he] using hq

/-- Either all items are different and the merge gives the union, or it stops at the first item that
is supplied again. -/
lemma mergeAll_cases (label : String) {cs : List Contribution}
    (kinded : ∀ c ∈ cs, ∀ s ∈ c.capabilities, ∃ k, s.kind? = some k) :
    ((keys (cs.flatMap claims)).Nodup ∧ mergeAll label cs = .ok (union label cs)) ∨
      ∃ item first second, FirstConflict (cs.flatMap claims) item first second ∧
        mergeAll label cs = .error (.suppliedTwice item first second) := by
  -- the run starts with nothing gathered and no claim before it
  have run := foldlM_addPart (allParts cs) [] (kinded_of_mem_allParts kinded) List.nodup_nil
  have start : gathered [] = {} := rfl
  rw [List.nil_append, claimsOf_allParts, start, ← foldlM_add] at run
  rcases run with ⟨nodup, run⟩ | ⟨item, first, second, conflict, run⟩
  · refine Or.inl ⟨nodup, ?_⟩
    rw [mergeAll, run, ← description_gathered]
    rfl
  · refine Or.inr ⟨item, first, second, conflict, ?_⟩
    rw [mergeAll, run]
    rfl

lemma FirstConflict.not_nodup {row : List (Item × String)} {item : Item} {first second : String}
    (h : FirstConflict row item first second) : ¬ (keys row).Nodup := by
  obtain ⟨before, after, rfl, -, hfirst⟩ := h
  rw [keys_append, List.nodup_append]
  rintro ⟨-, -, disjoint⟩
  refine disjoint item ?_ item (by simp [keys]) rfl
  exact List.mem_map_of_mem (f := Prod.fst) (Keyed.mem_of_lookup hfirst)

lemma count_capability_claims (cs : List Contribution) (k : CapabilityKind) :
    (keys (cs.flatMap claims)).count (.capability k) =
      ((cs.flatMap (·.capabilities)).filterMap Supply.kind?).count k := by
  induction cs with
  | nil => rfl
  | cons c cs ih =>
    have own : (keys c.claims).count (.capability k) =
        (c.capabilities.filterMap Supply.kind?).count k := by
      have inj : Function.Injective Item.capability := fun _ _ => Item.capability.inj
      rw [claims, keys_append, List.count_append, keys, List.map_map, Function.comp_def,
        List.count_map_of_injective _ _ inj]
      cases c.executable <;> simp [keys]
    rw [List.flatMap_cons, keys_append, List.count_append, own, ih, List.flatMap_cons,
      List.filterMap_append, List.count_append]

lemma count_executable_claims (cs : List Contribution) :
    (keys (cs.flatMap claims)).count .executable = (cs.filterMap (·.executable)).length := by
  induction cs with
  | nil => rfl
  | cons c cs ih =>
    have own : (keys c.claims).count .executable = c.executable.toList.length := by
      have caps : (keys ((c.capabilities.filterMap Supply.kind?).map
          fun k => (Item.capability k, c.source))).count .executable = 0 := by
        rw [List.count_eq_zero, keys, List.map_map]
        simp
      rw [claims, keys_append, List.count_append, caps]
      cases c.executable <;> simp [keys]
    rw [List.flatMap_cons, keys_append, List.count_append, own, ih]
    cases h : c.executable <;> simp [h, Nat.add_comm]

/-- The items differ exactly if nothing is supplied twice. -/
lemma not_nodup_claims_iff (cs : List Contribution) :
    ¬ (keys (cs.flatMap claims)).Nodup ↔ SuppliesTwice cs := by
  rw [List.nodup_iff_count_le_one, SuppliesTwice]
  simp only [not_forall, Nat.not_le]
  -- an item is a kind or the program, and each is counted on its own
  constructor
  · rintro ⟨item, h⟩
    cases item with
    | capability k => exact Or.inl ⟨k, count_capability_claims cs k ▸ h⟩
    | executable => exact Or.inr (count_executable_claims cs ▸ h)
  · rintro (⟨k, h⟩ | h)
    · exact ⟨.capability k, by rwa [count_capability_claims]⟩
    · exact ⟨.executable, by rwa [count_executable_claims]⟩

/-! ## The union -/

lemma keys_union_capabilities (label : String) (cs : List Contribution) :
    (union label cs).kinds = (cs.flatMap (·.capabilities)).filterMap Supply.kind? := by
  simp [union, Description.kinds, keys, List.map_filterMap, Function.comp_def]

lemma nodup_kinds_union {cs : List Contribution} (once : ¬ SuppliesTwice cs) (label : String) :
    (union label cs).kinds.Nodup := by
  rw [keys_union_capabilities, List.nodup_iff_count_le_one]
  intro k
  exact Nat.le_of_not_lt fun h => once (Or.inl ⟨k, h⟩)

lemma lookup_union {cs : List Contribution} (once : ¬ SuppliesTwice cs) (label : String)
    (k : CapabilityKind) (s : Supply) :
    (union label cs).capabilities.lookup k = some s ↔
      s ∈ cs.flatMap (·.capabilities) ∧ s.kind? = some k := by
  rw [Keyed.lookup_eq_some_iff (nodup_kinds_union once label), union, List.mem_filterMap]
  constructor
  · rintro ⟨t, ht, heq⟩
    obtain ⟨j, hj, heq⟩ := Option.map_eq_some_iff.mp heq
    obtain ⟨rfl, rfl⟩ := Prod.mk.inj heq
    exact ⟨ht, hj⟩
  · rintro ⟨hs, hk⟩
    exact ⟨s, hs, by rw [hk, Option.map_some]⟩

lemma executable_union {cs : List Contribution} (once : ¬ SuppliesTwice cs) (label : String) :
    (union label cs).executable.toList = cs.filterMap (·.executable) := by
  have short : (cs.filterMap (·.executable)).length ≤ 1 :=
    Nat.le_of_not_lt fun h => once (Or.inr h)
  rw [union]
  cases h : cs.filterMap (·.executable) with
  | nil => rfl
  | cons a rest =>
    rw [h, List.length_cons] at short
    have hrest : rest = [] := List.length_eq_zero_iff.mp (by omega)
    rw [hrest]
    rfl

lemma isUnion_union {cs : List Contribution} (once : ¬ SuppliesTwice cs) (label : String) :
    IsUnion label cs (union label cs) := by
  have found := lookup_union once label
  refine ⟨rfl, ?_, keys_union_capabilities label cs, found, ?_, ?_, ?_, ?_, ?_, rfl,
    executable_union once label⟩
  · rw [union, ArtifactSetBuilder.toList_build_addTransitive, List.flatMap_map]
  · intro k
    rw [Description.offers, Option.any_eq_true]
    constructor
    · rintro ⟨s, hs, -⟩
      exact ⟨s, (found k s).mp hs⟩
    · rintro ⟨s, hs, hk⟩
      exact ⟨s, (found k s).mpr ⟨hs, hk⟩, by simpa using hk⟩
  · intro e
    rw [Description.executionInfo_eq_some_iff, found]
    exact and_iff_left rfl
  · intro r
    rw [Description.runfiles_eq_some_iff, found]
    exact and_iff_left rfl
  · intro f
    rw [Description.instrumentedFiles_eq_some_iff, found]
    exact and_iff_left rfl
  · intro p
    rw [Description.ideProject_eq_some_iff, found]
    exact and_iff_left rfl

/-- Merging as the last step of a build, without its progress. -/
lemma runFrom_merge (p : Progress) (label : String) (cs : List Contribution) :
    Assembly.runFrom p (Assembly.merge label cs) =
      ((mergeAll label cs).mapError fun
        | .suppliedTwice item first second => .problem (suppliedTwice label item first second)
        | .noKind typeName => .misfit (noKind typeName), p) := by
  rw [Assembly.merge]
  cases mergeAll label cs with
  | ok d => rfl
  | error e => cases e <;> rfl

/-! ## Main result -/

/-- Where everything that is supplied has a kind, merging fails exactly if something is supplied
twice.  The problem is then the first conflict: it names the item, the source that supplied it
earliest and the one that supplies it again.  Otherwise the description is the union. -/
theorem merge_exact (p : Progress) (label : String) (cs : List Contribution)
    (kinded : ∀ c ∈ cs, ∀ s ∈ c.capabilities, ∃ k, s.kind? = some k) :
    ((∃ problem, Assembly.runFrom p (Assembly.merge label cs) = (.error (.problem problem), p) ∧
        problem.kind = .internalConsistency) ↔ SuppliesTwice cs) ∧
      (SuppliesTwice cs → ∃ item first second, FirstConflict (cs.flatMap claims) item first second ∧
        ∃ problem, Assembly.runFrom p (Assembly.merge label cs) = (.error (.problem problem), p) ∧
          problem.message = item.text ++ " was supplied more than once." ∧
          problem.context = [("target", label), ("first", first), ("second", second)]) ∧
      (¬ SuppliesTwice cs → ∃ d, Assembly.runFrom p (Assembly.merge label cs) = (.ok d, p) ∧
        IsUnion label cs d) := by
  rw [runFrom_merge]
  rcases mergeAll_cases label kinded with ⟨nodup, run⟩ | ⟨item, first, second, conflict, run⟩
  · have once : ¬ SuppliesTwice cs := fun h => (not_nodup_claims_iff cs).mpr h nodup
    rw [run]
    refine ⟨⟨?_, fun h => absurd h once⟩, fun h => absurd h once, fun _ => ?_⟩
    · rintro ⟨problem, h, -⟩
      cases h
    · exact ⟨union label cs, rfl, isUnion_union once label⟩
  · have twice : SuppliesTwice cs := (not_nodup_claims_iff cs).mp conflict.not_nodup
    rw [run]
    refine ⟨⟨fun _ => twice, fun _ => ⟨_, rfl, rfl⟩⟩, fun _ => ?_, fun h => absurd twice h⟩
    exact ⟨item, first, second, conflict, _, rfl, rfl, rfl⟩

/-- Two parts that both say how a target is to be run. -/
def twoInfos : List Contribution :=
  [{ source := "first", capabilities := [.capability (.executionInfo {})] },
    { source := "second", capabilities := [.capability (.executionInfo {})] }]

/-- Two parts that both say how a target is to be run are not merged. -/
theorem merge_twoInfos :
    (∀ c ∈ twoInfos, ∀ s ∈ c.capabilities, ∃ k, s.kind? = some k) ∧ SuppliesTwice twoInfos ∧
      ∃ problem, Assembly.runFrom {} (Assembly.merge "//app:tests" twoInfos) =
          (.error (.problem problem), {}) ∧ problem.kind = .internalConsistency := by
  have kinded : ∀ c ∈ twoInfos, ∀ s ∈ c.capabilities, ∃ k, s.kind? = some k := by
    simp [twoInfos, Supply.kind?]
  have twice : SuppliesTwice twoInfos := Or.inl ⟨.executionInfo, by decide⟩
  exact ⟨kinded, twice, (merge_exact {} "//app:tests" twoInfos kinded).1.mpr twice⟩

end Contribution

end TargetAssembly
