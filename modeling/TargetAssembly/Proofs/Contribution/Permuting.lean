import Mathlib.Data.List.Perm.Basic
import TargetAssembly.Proofs.Contribution.Merging
import TargetAssembly.Proofs.Description.Reordering

/-!
# Contributions in another order

Whether contributions can be merged does not depend on their order, although the conflict that is
reported does.  What they come to depends on it in two places only: the files and the extra values
follow the order of the contributions.  So contributions that have neither can be moved freely; all
that shows then is the order in which capabilities were supplied, and equality of descriptions does
not see it, nor do the bytes.
-/

namespace TargetAssembly

/-! ## Equal descriptions -/

namespace Description

/-- Two descriptions are equal: their sets flatten to the same lists, under every kind both have the
same or nothing, and all else is the same. -/
structure Equal (d e : Description) : Prop where
  label : d.label = e.label
  files : d.filesToBuild.sameAs e.filesToBuild = true
  capabilities : ∀ k, d.capabilities.lookup k = e.capabilities.lookup k
  extras : d.extras = e.extras
  executable : d.executable = e.executable

/-- Equal descriptions that supply each kind once are alike. -/
lemma Equal.alike {d e : Description} (h : d.Equal e) (hd : d.kinds.Nodup) (he : e.kinds.Nodup) :
    d.Alike e := by
  have perm : d.capabilities.Perm e.capabilities :=
    (Keyed.perm_iff_lookup hd he).mpr h.capabilities
  refine ⟨h.label, ArtifactSet.sameAs_iff.mp h.files, hd, ?_, ?_, h.executable⟩
  · exact ⟨e.capabilities, perm, rfl, List.forall₂_same.mpr fun v _ => .refl v⟩
  · rw [h.extras]
    exact List.forall₂_same.mpr fun v _ => .refl v

end Description

namespace Contribution

/-! ## When contributions can be merged -/

/-- Everything that contributions supply as a capability has a kind. -/
def AllKinded (cs : List Contribution) : Prop :=
  ∀ c ∈ cs, ∀ s ∈ c.capabilities, ∃ k, s.kind? = some k

lemma kinded_of_addPart {m m' : Merged} {p : Part} {source : String}
    (h : addPart m (p, source) = .ok m') : p.Kinded := by
  rintro s rfl
  rw [addPart, addCapability] at h
  cases hk : s.kind? with
  | none =>
    rw [hk] at h
    cases h
  | some k => exact ⟨k, rfl⟩

lemma kinded_of_foldlM_addPart {ps : List (Part × String)} {m m' : Merged}
    (h : ps.foldlM addPart m = .ok m') : ∀ p ∈ ps, p.1.Kinded := by
  induction ps generalizing m with
  | nil => exact fun _ hp => absurd hp List.not_mem_nil
  | cons p ps ih =>
    rw [List.foldlM_cons] at h
    cases first : addPart m p with
    | error e =>
      rw [first] at h
      cases h
    | ok m₁ =>
      rw [first] at h
      exact List.forall_mem_cons.mpr ⟨kinded_of_addPart first, ih h⟩

lemma allKinded_of_mergeAll {label : String} {cs : List Contribution} {d : Description}
    (h : mergeAll label cs = .ok d) : AllKinded cs := by
  intro c hc s hs
  rw [mergeAll] at h
  cases run : cs.foldlM add {} with
  | error e =>
    rw [run] at h
    cases h
  | ok m =>
    rw [foldlM_add] at run
    have part : (Part.capability s, c.source) ∈ allParts cs := by
      refine List.mem_flatMap.mpr ⟨c, hc, ?_⟩
      simp [parts, hs]
    exact kinded_of_foldlM_addPart run _ part s rfl

/-- Contributions are merged exactly if everything supplied has a kind and nothing is supplied
twice, and they come to their union then. -/
lemma mergeAll_eq_ok_iff {label : String} {cs : List Contribution} {d : Description} :
    mergeAll label cs = .ok d ↔ AllKinded cs ∧ ¬ SuppliesTwice cs ∧ d = union label cs := by
  constructor
  · intro h
    have kinded := allKinded_of_mergeAll h
    rcases mergeAll_cases label kinded with ⟨nodup, run⟩ | ⟨item, first, second, -, run⟩
    · rw [run, Except.ok.injEq] at h
      exact ⟨kinded, fun twice => (not_nodup_claims_iff cs).mpr twice nodup, h.symm⟩
    · rw [run] at h
      cases h
  · rintro ⟨kinded, once, rfl⟩
    rcases mergeAll_cases label kinded with ⟨-, run⟩ | ⟨item, first, second, conflict, -⟩
    · exact run
    · exact absurd ((not_nodup_claims_iff cs).mp conflict.not_nodup) once

lemma exists_error_mergeAll_iff {label : String} {cs : List Contribution} :
    (∃ conflict, mergeAll label cs = .error conflict) ↔ ¬ (AllKinded cs ∧ ¬ SuppliesTwice cs) := by
  cases run : mergeAll label cs with
  | ok d =>
    obtain ⟨kinded, once, -⟩ := mergeAll_eq_ok_iff.mp run
    exact iff_of_false nofun fun h => h ⟨kinded, once⟩
  | error conflict =>
    refine iff_of_true ⟨conflict, rfl⟩ ?_
    rintro ⟨kinded, once⟩
    have merged : mergeAll label cs = .ok (union label cs) :=
      mergeAll_eq_ok_iff.mpr ⟨kinded, once, rfl⟩
    rw [run] at merged
    cases merged

/-! ## Permutations -/

section Permutation

variable {cs ds : List Contribution} (order : cs.Perm ds)

include order

lemma allKinded_perm : AllKinded cs ↔ AllKinded ds := by
  refine forall_congr' fun c => ?_
  rw [order.mem_iff]

lemma suppliesTwice_perm : SuppliesTwice cs ↔ SuppliesTwice ds := by
  have supplied : ((cs.flatMap (·.capabilities)).filterMap Supply.kind?).Perm
      ((ds.flatMap (·.capabilities)).filterMap Supply.kind?) :=
    (order.flatMap_right _).filterMap _
  have programs : (cs.filterMap (·.executable)).length = (ds.filterMap (·.executable)).length :=
    (order.filterMap _).length_eq
  rw [SuppliesTwice, SuppliesTwice, programs]
  simp only [supplied.count_eq]

lemma lookup_union_perm (once : ¬ SuppliesTwice cs) (label : String) (k : CapabilityKind) :
    (union label cs).capabilities.lookup k = (union label ds).capabilities.lookup k := by
  have once' : ¬ SuppliesTwice ds := fun twice => once ((suppliesTwice_perm order).mpr twice)
  refine Option.ext fun s => ?_
  rw [lookup_union once, lookup_union once', (order.flatMap_right _).mem_iff]

lemma executable_union_perm (once : ¬ SuppliesTwice cs) (label : String) :
    (union label cs).executable = (union label ds).executable := by
  have once' : ¬ SuppliesTwice ds := fun twice => once ((suppliesTwice_perm order).mpr twice)
  have perm : (union label cs).executable.toList.Perm (union label ds).executable.toList := by
    rw [executable_union once, executable_union once']
    exact order.filterMap _
  refine Option.ext fun a => ?_
  rw [← Option.mem_toList, ← Option.mem_toList]
  exact perm.mem_iff

lemma mem_files_union_perm (label : String) (a : Artifact) :
    a ∈ (union label cs).filesToBuild.toList ↔ a ∈ (union label ds).filesToBuild.toList := by
  rw [union, union, ArtifactSetBuilder.toList_build_addTransitive,
    ArtifactSetBuilder.toList_build_addTransitive, List.mem_eraseDups, List.mem_eraseDups]
  exact ((order.map _).flatMap_right _).mem_iff

lemma extras_union_perm (label : String) :
    (union label cs).extras.Perm (union label ds).extras :=
  order.flatMap_right _

end Permutation

/-! ## Contributions whose order shows -/

/-- A contribution has files or extra values. -/
def hasOrdered (c : Contribution) : Bool := !c.files.isEmpty || !c.extras.isEmpty

/-- Entries from which nothing comes can be left out. -/
lemma flatMap_filter_of_nil {α β : Type} {p : α → Bool} {f : α → List β}
    (none : ∀ a, p a = false → f a = []) (l : List α) : (l.filter p).flatMap f = l.flatMap f := by
  induction l with
  | nil => rfl
  | cons a l ih =>
    cases h : p a with
    | true => rw [List.filter_cons_of_pos h, List.flatMap_cons, List.flatMap_cons, ih]
    | false =>
      rw [List.filter_cons_of_neg (by simp [h]), List.flatMap_cons, none a h, List.nil_append, ih]

lemma flatMap_files_hasOrdered (cs : List Contribution) :
    (cs.filter hasOrdered).flatMap (·.files.toList) = cs.flatMap (·.files.toList) := by
  refine flatMap_filter_of_nil (fun c h => ?_) cs
  simp only [hasOrdered, Bool.or_eq_false_iff, Bool.not_eq_false'] at h
  exact List.isEmpty_iff.mp h.1

lemma flatMap_extras_hasOrdered (cs : List Contribution) :
    (cs.filter hasOrdered).flatMap (·.extras) = cs.flatMap (·.extras) := by
  refine flatMap_filter_of_nil (fun c h => ?_) cs
  simp only [hasOrdered, Bool.or_eq_false_iff, Bool.not_eq_false'] at h
  exact List.isEmpty_iff.mp h.2

/-- Moving contributions that have neither files nor extra values gives an equal union. -/
lemma equal_union {cs ds : List Contribution} (order : cs.Perm ds) (once : ¬ SuppliesTwice cs)
    (kept : cs.filter hasOrdered = ds.filter hasOrdered) (label : String) :
    (union label cs).Equal (union label ds) := by
  refine ⟨rfl, ?_, lookup_union_perm order once label, ?_, executable_union_perm order once label⟩
  · rw [ArtifactSet.sameAs_iff, union, union, ArtifactSetBuilder.toList_build_addTransitive,
      ArtifactSetBuilder.toList_build_addTransitive, List.flatMap_map, List.flatMap_map,
      ← flatMap_files_hasOrdered cs, kept, flatMap_files_hasOrdered]
  · show cs.flatMap (·.extras) = ds.flatMap (·.extras)
    rw [← flatMap_extras_hasOrdered cs, kept, flatMap_extras_hasOrdered]

/-! ## Main result -/

/-- Contributions can be merged in one order exactly if they can in another, and then come to the
same capabilities, program, set of files and extra values up to order.  If those with files or extra
values are in the same order in both, they come to equal descriptions with the same bytes. -/
theorem mergeAll_perm (label : String) {cs ds : List Contribution} (order : cs.Perm ds) :
    ((∃ conflict, mergeAll label cs = .error conflict) ↔
        ∃ conflict, mergeAll label ds = .error conflict) ∧
      ∀ d, mergeAll label cs = .ok d → ∃ e, mergeAll label ds = .ok e ∧
        ((∀ k, d.capabilities.lookup k = e.capabilities.lookup k) ∧ d.executable = e.executable ∧
          (∀ a, a ∈ d.filesToBuild.toList ↔ a ∈ e.filesToBuild.toList) ∧
          d.extras.Perm e.extras) ∧
        (cs.filter hasOrdered = ds.filter hasOrdered → d.Equal e ∧ d.bytes = e.bytes) := by
  refine ⟨?_, fun d merged => ?_⟩
  · rw [exists_error_mergeAll_iff, exists_error_mergeAll_iff, allKinded_perm order,
      suppliesTwice_perm order]
  · obtain ⟨kinded, once, rfl⟩ := mergeAll_eq_ok_iff.mp merged
    have once' : ¬ SuppliesTwice ds := fun twice => once ((suppliesTwice_perm order).mpr twice)
    have merged' : mergeAll label ds = .ok (union label ds) :=
      mergeAll_eq_ok_iff.mpr ⟨(allKinded_perm order).mp kinded, once', rfl⟩
    refine ⟨union label ds, merged', ⟨lookup_union_perm order once label,
      executable_union_perm order once label, mem_files_union_perm order label,
      extras_union_perm order label⟩, fun kept => ?_⟩
    have equal := equal_union order once kept label
    have alike := equal.alike (nodup_kinds_union once label) (nodup_kinds_union once' label)
    exact ⟨equal, alike.bytes_eq⟩

/-- A part that builds a file. -/
def compiled : Contribution := { source := "compile", files := .ofList [{ path := "tests" }] }

/-- A part that says how the target is to be run, and has nothing else. -/
def informed : Contribution :=
  { source := "info", capabilities := [.capability (.executionInfo {})] }

/-- A part that builds another file and supplies the files for coverage. -/
def bundled : Contribution :=
  { source := "bundle", files := .ofList [{ path := "tests.ipa" }]
    capabilities := [.capability (.instrumentedFiles {})] }

/-- A part without files can be moved to the front, though its capability is listed first then. -/
theorem mergeAll_moved :
    [compiled, informed, bundled].Perm [informed, compiled, bundled] ∧
      [compiled, informed, bundled].filter hasOrdered =
        [informed, compiled, bundled].filter hasOrdered ∧
      ∃ d e, mergeAll "//app:tests" [compiled, informed, bundled] = .ok d ∧
        mergeAll "//app:tests" [informed, compiled, bundled] = .ok e ∧ d.Equal e ∧
        d.bytes = e.bytes := by
  have order : [compiled, informed, bundled].Perm [informed, compiled, bundled] :=
    .swap informed compiled [bundled]
  have kept : [compiled, informed, bundled].filter hasOrdered =
      [informed, compiled, bundled].filter hasOrdered := rfl
  obtain ⟨e, merged, -, same⟩ := (mergeAll_perm "//app:tests" order).2 _ rfl
  exact ⟨order, kept, _, e, rfl, merged, same kept⟩

end Contribution

end TargetAssembly
