import TargetAssembly.Description
import TargetAssembly.Proofs.ArtifactSet.Flattening
import TargetAssembly.Proofs.Value.Payload

/-!
# Same bytes, same description

`bytes_eq_iff` says that two well-typed descriptions have the same bytes exactly if they are the
same.  One half needs that nothing is lost on the way from a description to its payload and from
there to the bytes, the other that both forget what sameness does not see.
-/

namespace TargetAssembly

namespace Description

/-! ## What the payload of a description holds -/

/-- What the payload of an extra value holds, under the name of its type. -/
def extraContent (v : Value) : Payload :=
  .object [("type", .text v.typeName), ("value", v.content)]

/-- The members of the object that the capabilities become. -/
def members (d : Description) : List (String × Payload) :=
  d.sortedCapabilities.map fun e => (e.1.text, e.2.toValue.content)

/-- What the payload of a description holds. -/
def content (d : Description) : Payload :=
  .object [
    ("label", .text d.label),
    ("files_to_build", .ofArtifacts d.filesToBuild),
    ("capabilities", .object d.members),
    ("extras", .list (d.extras.map extraContent)),
    ("executable", .ofArtifact? d.executable)]

/-- A key of a mapping in a description has no plain text. -/
def KeyOverlong (d : Description) : Prop :=
  (∃ e ∈ d.capabilities, e.2.toValue.KeyOverlong) ∨ ∃ v ∈ d.extras, v.KeyOverlong

lemma sortedCapabilities_perm (d : Description) : d.sortedCapabilities.Perm d.capabilities :=
  List.mergeSort_perm _ _

lemma payload_limited (d : Description) : Limited d.payload d.KeyOverlong d.content := by
  have capabilities : Limited (d.sortedCapabilities.mapM fun e => supplyPayload (e.1, e.2.toValue))
      (∃ e ∈ d.sortedCapabilities, e.2.toValue.KeyOverlong) d.members :=
    .mapM fun e _ => e.2.toValue.payload_limited.map
  have extras : Limited (d.extras.mapM extraPayload) (∃ v ∈ d.extras, v.KeyOverlong)
      (d.extras.map extraContent) := .mapM fun v _ => v.payload_limited.map
  have supplied : (∃ e ∈ d.sortedCapabilities, e.2.toValue.KeyOverlong) ↔
      ∃ e ∈ d.capabilities, e.2.toValue.KeyOverlong :=
    exists_congr fun e => by rw [d.sortedCapabilities_perm.mem_iff]
  exact (capabilities.bind extras.map).congr (or_congr supplied Iff.rfl)

/-- The keys of all mappings in a description are texts, and no problem is among its parts. -/
structure TextKeyed (d : Description) : Prop where
  capability : ∀ e ∈ d.capabilities, e.2.toValue.TextKeyed
  extra : ∀ v ∈ d.extras, v.TextKeyed

namespace TextKeyed

variable {d : Description}

lemma not_keyOverlong (h : d.TextKeyed) : ¬ d.KeyOverlong := by
  rintro (⟨e, mem, long⟩ | ⟨v, mem, long⟩)
  · exact (h.capability e mem).not_keyOverlong long
  · exact (h.extra v mem).not_keyOverlong long

lemma payload_eq (h : d.TextKeyed) : d.payload = .ok d.content :=
  d.payload_limited.ok h.not_keyOverlong

lemma problemType?_content (h : d.TextKeyed) : Cbor.problemType? d.content = none := by
  have members : Cbor.problemType? (.object d.members) = none := by
    rw [Cbor.problemType?_object_eq_none_iff]
    intro m hm
    obtain ⟨e, he, rfl⟩ := List.mem_map.mp hm
    exact (h.capability e (d.sortedCapabilities_perm.mem_iff.mp he)).problemType?_content
  have extras : Cbor.problemType? (.list (d.extras.map extraContent)) = none := by
    rw [Cbor.problemType?_list_eq_none_iff]
    refine List.forall_mem_map.mpr fun v hv => ?_
    rw [extraContent, Cbor.problemType?_object_eq_none_iff]
    simp only [List.forall_mem_cons]
    exact ⟨rfl, (h.extra v hv).problemType?_content, fun _ h => absurd h List.not_mem_nil⟩
  rw [content, Cbor.problemType?_object_eq_none_iff]
  simp only [List.forall_mem_cons]
  exact ⟨rfl, Payload.problemType?_ofArtifacts _, members, extras,
    Payload.problemType?_ofArtifact? _, fun _ h => absurd h List.not_mem_nil⟩

/-- A description all keys of which are texts has bytes. -/
lemma bytes_eq (h : d.TextKeyed) : d.bytes = .ok (Cbor.encode d.content) := by
  rw [bytes, h.payload_eq]
  show Cbor.write d.content = _
  rw [Cbor.write, h.problemType?_content]

end TextKeyed

end Description

/-!
## Descriptions that are the same

Two descriptions are the same if their sets flatten to the same lists and their mappings bind the
same keys to the same values, and all else is equal.  So neither the nesting of a set nor the order
in which a mapping was filled matters.
-/

/-! ### Sameness -/

/-- Two capabilities are of one kind and agree in all fields: in sets up to their nesting, in
mappings up to the order of their entries. -/
def Capability.Same : Capability → Capability → Prop
  | .executionInfo e, .executionInfo f =>
    ∀ key, e.requirements.lookup key = f.requirements.lookup key
  | .runfiles r, .runfiles s =>
    r.workspaceName = s.workspaceName ∧ r.artifacts.sameAs s.artifacts = true ∧
      r.executable = s.executable ∧ r.legacyExternalRunfiles = s.legacyExternalRunfiles
  | .instrumentedFiles f, .instrumentedFiles g =>
    f.instrumented.sameAs g.instrumented = true ∧ f.metadata.sameAs g.metadata = true
  | .ideProject p, .ideProject q => p = q
  | _, _ => False

/-- Two capabilities are supplied, and they are the same. -/
def Supply.Same : Supply → Supply → Prop
  | .capability x, .capability y => x.Same y
  | _, _ => False

/-- Two descriptions are the same: under every kind both have the same capability, or none. -/
structure Description.Same (d e : Description) : Prop where
  label : d.label = e.label
  files : d.filesToBuild.sameAs e.filesToBuild = true
  capabilities : ∀ k, Option.Rel Supply.Same (d.capabilities.lookup k) (e.capabilities.lookup k)
  extras : d.extras = e.extras
  executable : d.executable = e.executable

/-! ### Well-typed descriptions -/

/-- What a capability requires is bound once. -/
def Capability.BindsOnce : Capability → Prop
  | .executionInfo e => (Keyed.keys e.requirements).Nodup
  | _ => True

/-- A value that is a test runner or a coverage tool. -/
def Value.IsTool (v : Value) : Prop :=
  (∃ t : TestRunner, v = t.toValue) ∨ ∃ t : CoverageTool, v = t.toValue

/-- A description whose capabilities are of the kinds under which they stand, whose extra values are
test runners and coverage tools, and in which all lengths are below `2 ^ 64`. -/
structure Description.WellTyped (d : Description) : Prop where
  once : d.kinds.Nodup
  capability : ∀ e ∈ d.capabilities, ∃ x : Capability,
    e.2 = .capability x ∧ x.kind = e.1 ∧ x.BindsOnce
  tool : ∀ v ∈ d.extras, v.IsTool
  fits : ∀ p, d.payload = .ok p → p.Fits

/-! ### The payloads of capabilities -/

namespace Capability

/-- The payloads of two capabilities of one kind tell whether they are the same. -/
lemma canonical_content_iff {x y : Capability} (kind : x.kind = y.kind) (hx : x.BindsOnce)
    (hy : y.BindsOnce) :
    x.toValue.content.canonical = y.toValue.content.canonical ↔ x.Same y := by
  cases x with
  | executionInfo e =>
    cases y with
    | executionInfo f =>
      rw [toValue, toValue, ExecutionInfo.toValue, ExecutionInfo.toValue,
        Value.canonical_content_record_iff (by decide) (by rfl) (by simp [Keyed.keys])]
      simp only [List.map_cons, List.map_nil, List.cons.injEq, and_true]
      exact Value.canonical_content_ofTextMapping_iff hx hy
    | _ => cases kind
  | runfiles r =>
    cases y with
    | runfiles s =>
      rw [toValue, toValue, Runfiles.toValue, Runfiles.toValue,
        Value.canonical_content_record_iff (by decide) (by rfl) (by simp [Keyed.keys])]
      simp [Same, ArtifactSet.sameAs_iff]
    | _ => cases kind
  | instrumentedFiles f =>
    cases y with
    | instrumentedFiles g =>
      rw [toValue, toValue, InstrumentedFiles.toValue, InstrumentedFiles.toValue,
        Value.canonical_content_record_iff (by decide) (by rfl) (by simp [Keyed.keys])]
      simp [Same, ArtifactSet.sameAs_iff]
    | _ => cases kind
  | ideProject p =>
    cases y with
    | ideProject q =>
      rw [toValue, toValue, ProjectInfo.toValue, ProjectInfo.toValue,
        Value.canonical_content_record_iff (by decide) (by rfl) (by simp [Keyed.keys])]
      cases p
      cases q
      simp [Same]
    | _ => cases kind

/-- No capability holds a floating point number. -/
lemma floatFree_content {x : Capability} (hx : x.BindsOnce) : x.toValue.content.FloatFree := by
  cases x with
  | executionInfo e =>
    have requirements := Value.floatFree_ofTextMapping hx
    exact Value.floatFree_record (by decide) (by simp [Keyed.keys]) (by simpa using requirements)
  | runfiles r => exact Value.floatFree_record (by decide) (by simp [Keyed.keys]) (by simp)
  | instrumentedFiles f => exact Value.floatFree_record (by decide) (by simp [Keyed.keys]) (by simp)
  | ideProject p => exact Value.floatFree_record (by decide) (by simp [Keyed.keys]) (by simp)

/-- The keys of what a capability requires are texts. -/
lemma textKeyed_toValue (x : Capability) : x.toValue.TextKeyed := by
  cases x with
  | executionInfo e => exact .record _ (by simp)
  | runfiles r => exact .record _ (by simp)
  | instrumentedFiles f => exact .record _ (by simp)
  | ideProject p => exact .record _ (by simp)

end Capability

/-! ### The payloads of tools -/

lemma Value.IsTool.textKeyed {v : Value} (h : v.IsTool) : v.TextKeyed := by
  rcases h with ⟨t, rfl⟩ | ⟨t, rfl⟩ <;> exact .record _ (by simp)

lemma TestRunner.canonical_content_iff {t u : TestRunner} :
    t.toValue.content.canonical = u.toValue.content.canonical ↔ t = u := by
  rw [toValue, toValue,
    Value.canonical_content_record_iff (by decide) (by rfl) (by simp [Keyed.keys])]
  cases t
  cases u
  simp

lemma CoverageTool.canonical_content_iff {t u : CoverageTool} :
    t.toValue.content.canonical = u.toValue.content.canonical ↔ t = u := by
  rw [toValue, toValue,
    Value.canonical_content_record_iff (by decide) (by rfl) (by simp [Keyed.keys])]
  cases t
  cases u
  simp

namespace Description

lemma canonical_extraContent_parts {v w : Value} :
    (extraContent v).canonical = (extraContent w).canonical ↔
      v.typeName = w.typeName ∧ v.content.canonical = w.content.canonical := by
  rw [extraContent, extraContent, Payload.canonical_record_iff (by rfl) (by simp [Keyed.keys])]
  simp

/-- Under the name of its type the payload of a tool tells the tool. -/
lemma canonical_extraContent_iff {v w : Value} (hv : v.IsTool) (hw : w.IsTool) :
    (extraContent v).canonical = (extraContent w).canonical ↔ v = w := by
  rw [canonical_extraContent_parts]
  have differ : "TestRunnerInfo" ≠ "CoverageToolInfo" := by decide
  refine ⟨?_, fun h => h ▸ ⟨rfl, rfl⟩⟩
  rcases hv with ⟨t, rfl⟩ | ⟨t, rfl⟩ <;> rcases hw with ⟨u, rfl⟩ | ⟨u, rfl⟩
  · exact fun h => congrArg TestRunner.toValue (TestRunner.canonical_content_iff.mp h.2)
  · exact fun h => absurd h.1 differ
  · exact fun h => absurd h.1 differ.symm
  · exact fun h => congrArg CoverageTool.toValue (CoverageTool.canonical_content_iff.mp h.2)

lemma floatFree_extraContent {v : Value} (hv : v.IsTool) : (extraContent v).FloatFree := by
  have value : v.content.FloatFree := by
    rcases hv with ⟨t, rfl⟩ | ⟨t, rfl⟩
    · exact Value.floatFree_record (by decide) (by simp [Keyed.keys]) (by simp)
    · exact Value.floatFree_record (by decide) (by simp [Keyed.keys]) (by simp)
  exact .object (by simp [value])

end Description

lemma CapabilityKind.text_injective : Function.Injective CapabilityKind.text := by
  intro j k h
  cases j <;> cases k <;> simp_all [text]

namespace Description

/-! ## The members of the capabilities -/

lemma keys_members (d : Description) :
    Keyed.keys d.members = (Keyed.keys d.sortedCapabilities).map CapabilityKind.text := by
  simp [members, Keyed.keys]

section

variable {d e : Description} (hd : d.WellTyped) (he : e.WellTyped)

include hd

lemma WellTyped.nodup_sortedCapabilities : (Keyed.keys d.sortedCapabilities).Nodup :=
  (d.sortedCapabilities_perm.map Prod.fst).nodup_iff.mpr hd.once

lemma WellTyped.nodup_members : (Keyed.keys d.members).Nodup := by
  rw [keys_members]
  exact hd.nodup_sortedCapabilities.map CapabilityKind.text_injective

/-- Under the text of a kind stands the payload of what is supplied of that kind. -/
lemma WellTyped.lookup_members (k : CapabilityKind) :
    d.members.lookup k.text = (d.capabilities.lookup k).map fun s => s.toValue.content := by
  have same : d.sortedCapabilities.lookup k = d.capabilities.lookup k :=
    (Keyed.perm_iff_lookup hd.nodup_sortedCapabilities hd.once).mp d.sortedCapabilities_perm k
  rw [members, Keyed.lookup_map CapabilityKind.text_injective fun s : Supply => s.toValue.content,
    same]

/-- What a well-typed description has under a kind is a capability of that kind. -/
lemma WellTyped.lookup_cases (k : CapabilityKind) :
    d.capabilities.lookup k = none ∨ ∃ x : Capability,
      d.capabilities.lookup k = some (.capability x) ∧ x.kind = k ∧ x.BindsOnce := by
  cases h : d.capabilities.lookup k with
  | none => exact Or.inl rfl
  | some s =>
    obtain ⟨x, rfl, kind, once⟩ := hd.capability _ (Keyed.mem_of_lookup h)
    exact Or.inr ⟨x, rfl, kind, once⟩

include he

/-- Under one kind the payloads tell whether the capabilities are the same. -/
lemma WellTyped.lookup_canonical_iff (k : CapabilityKind) :
    (d.members.lookup k.text).map Payload.canonical =
        (e.members.lookup k.text).map Payload.canonical ↔
      Option.Rel Supply.Same (d.capabilities.lookup k) (e.capabilities.lookup k) := by
  rw [hd.lookup_members, he.lookup_members]
  rcases hd.lookup_cases k with hx | ⟨x, hx, kind_x, once_x⟩
  · rcases he.lookup_cases k with hy | ⟨y, hy, -, -⟩ <;> rw [hx, hy]
    · exact iff_of_true rfl .none
    · exact iff_of_false nofun nofun
  · rcases he.lookup_cases k with hy | ⟨y, hy, kind_y, once_y⟩ <;> rw [hx, hy]
    · exact iff_of_false nofun nofun
    · have tells := Capability.canonical_content_iff (kind_x.trans kind_y.symm) once_x once_y
      constructor
      · intro h
        exact .some (tells.mp (Option.some.inj h))
      · rintro (same | -)
        exact congrArg some (tells.mpr same)

end

lemma lookup_members_eq_none (d : Description) {name : String}
    (h : ∀ k : CapabilityKind, k.text ≠ name) : d.members.lookup name = none := by
  rw [Keyed.lookup_eq_none_iff, keys_members]
  intro hm
  obtain ⟨k, -, hk⟩ := List.mem_map.mp hm
  exact h k hk

variable {d e : Description}

lemma WellTyped.canonical_members_iff (hd : d.WellTyped) (he : e.WellTyped) :
    (Payload.object d.members).canonical = (Payload.object e.members).canonical ↔
      ∀ k, Option.Rel Supply.Same (d.capabilities.lookup k) (e.capabilities.lookup k) := by
  rw [Payload.canonical_object_iff hd.nodup_members he.nodup_members]
  constructor
  · exact fun h k => (hd.lookup_canonical_iff he k).mp (h k.text)
  · intro h name
    by_cases known : ∃ k : CapabilityKind, k.text = name
    · obtain ⟨k, rfl⟩ := known
      exact (hd.lookup_canonical_iff he k).mpr (h k)
    · -- a name that is the text of no kind is bound in neither object
      have unknown : ∀ k : CapabilityKind, k.text ≠ name := fun k hk => known ⟨k, hk⟩
      rw [d.lookup_members_eq_none unknown, e.lookup_members_eq_none unknown]

/-! ## Extra values -/

lemma canonical_extras_iff {l m : List Value} (hl : ∀ v ∈ l, v.IsTool) (hm : ∀ v ∈ m, v.IsTool) :
    (Payload.list (l.map extraContent)).canonical =
      (Payload.list (m.map extraContent)).canonical ↔ l = m := by
  refine ⟨?_, fun h => by rw [h]⟩
  rw [Payload.canonical_list, Payload.canonical_list, Payload.list.injEq, List.map_map,
    List.map_map]
  intro h
  induction l generalizing m with
  | nil =>
    cases m with
    | nil => rfl
    | cons w m => cases h
  | cons v l ih =>
    cases m with
    | nil => cases h
    | cons w m =>
      rw [List.forall_mem_cons] at hl hm
      obtain ⟨head, tail⟩ := List.cons.inj h
      rw [(canonical_extraContent_iff hl.1 hm.1).mp head, ih hl.2 hm.2 tail]

/-! ## Main result -/

lemma WellTyped.textKeyed (hd : d.WellTyped) : d.TextKeyed := by
  refine ⟨fun e he => ?_, fun v hv => (hd.tool v hv).textKeyed⟩
  obtain ⟨x, hx, -, -⟩ := hd.capability e he
  rw [hx]
  exact x.textKeyed_toValue

lemma WellTyped.fits_content (hd : d.WellTyped) : d.content.Fits :=
  hd.fits d.content hd.textKeyed.payload_eq

lemma WellTyped.floatFree (hd : d.WellTyped) : d.content.FloatFree := by
  have capabilities : (Payload.object d.members).FloatFree := by
    refine .object fun m hm => ?_
    obtain ⟨e, he, rfl⟩ := List.mem_map.mp hm
    obtain ⟨x, hx, -, once⟩ := hd.capability e (d.sortedCapabilities_perm.mem_iff.mp he)
    rw [hx]
    exact Capability.floatFree_content once
  have extras : (Payload.list (d.extras.map extraContent)).FloatFree :=
    Payload.floatFree_list_map fun v hv => floatFree_extraContent (hd.tool v hv)
  refine .object ?_
  simp only [List.forall_mem_cons]
  exact ⟨.text d.label, Payload.floatFree_ofArtifacts d.filesToBuild, capabilities, extras,
    Payload.floatFree_ofArtifact? d.executable, fun _ h => absurd h List.not_mem_nil⟩

/-- Two well-typed descriptions have bytes, and the same bytes exactly if they are the same. -/
theorem bytes_eq_iff (hd : d.WellTyped) (he : e.WellTyped) :
    (∃ bs, d.bytes = .ok bs) ∧ (∃ bs, e.bytes = .ok bs) ∧ (d.bytes = e.bytes ↔ d.Same e) := by
  have parts : d.content.canonical = e.content.canonical ↔
      d.label = e.label ∧ d.filesToBuild.toList = e.filesToBuild.toList ∧
        (Payload.object d.members).canonical = (Payload.object e.members).canonical ∧
        (Payload.list (d.extras.map extraContent)).canonical =
          (Payload.list (e.extras.map extraContent)).canonical ∧ d.executable = e.executable := by
    rw [content, content, Payload.canonical_record_iff (by rfl) (by simp [Keyed.keys])]
    simp
  have bytes_d := hd.textKeyed.bytes_eq
  have bytes_e := he.textKeyed.bytes_eq
  refine ⟨⟨_, bytes_d⟩, ⟨_, bytes_e⟩, ?_⟩
  rw [bytes_d, bytes_e, Except.ok.injEq,
    Cbor.encode_eq_iff hd.fits_content he.fits_content hd.floatFree he.floatFree, parts,
    hd.canonical_members_iff he, canonical_extras_iff hd.tool he.tool]
  constructor
  · rintro ⟨label, files, capabilities, extras, executable⟩
    exact ⟨label, ArtifactSet.sameAs_iff.mpr files, capabilities, extras, executable⟩
  · intro h
    exact ⟨h.label, ArtifactSet.sameAs_iff.mp h.files, h.capabilities, h.extras, h.executable⟩

/-- A description of one file and two capabilities, in any nesting and any order. -/
def small (files : ArtifactSet) (capabilities : List (CapabilityKind × Supply)) : Description :=
  { label := "//app:tests", filesToBuild := files, capabilities }

/-- The capabilities of such a description. -/
def smallSupplies : List (CapabilityKind × Supply) :=
  [(.executionInfo, .capability (.executionInfo {})),
    (.instrumentedFiles, .capability (.instrumentedFiles {}))]

/-- The file of such a description. -/
def smallFile : Artifact := { path := "tests" }

lemma wellTyped_small (files : ArtifactSet) (capabilities : List (CapabilityKind × Supply))
    (one : files.toList = [smallFile]) (perm : capabilities.Perm smallSupplies) :
    (small files capabilities).WellTyped := by
  have sorted := (small files capabilities).sortedCapabilities_perm.trans perm
  refine ⟨(perm.map Prod.fst).nodup_iff.mpr (by decide), fun e he => ?_, nofun, fun p hp => ?_⟩
  · have supplied : e ∈ smallSupplies := perm.mem_iff.mp he
    simp only [smallSupplies, List.mem_cons, List.not_mem_nil, or_false] at supplied
    rcases supplied with rfl | rfl
    · exact ⟨_, rfl, rfl, List.nodup_nil⟩
    · exact ⟨_, rfl, rfl, trivial⟩
  · obtain ⟨-, rfl⟩ := (payload_limited _).eq_ok_iff.mp hp
    have file : (Payload.ofArtifact smallFile).Fits := by
      refine .object (by decide) (by decide) ?_
      simp only [List.forall_mem_cons]
      exact ⟨.text (by decide), .text (by decide), fun _ h => absurd h List.not_mem_nil⟩
    have filesFit : (Payload.ofArtifacts files).Fits := by
      rw [Payload.ofArtifacts, one]
      refine .list (by decide) ?_
      simpa using file
    have emptyMapping : (Value.ofTextMapping []).content.Fits :=
      .object (by decide) nofun nofun
    have emptySet : (Value.artifacts .empty).content.Fits := .list (by decide) nofun
    have capabilitiesFit : (Payload.object (small files capabilities).members).Fits := by
      have each : ∀ m ∈ (small files capabilities).members,
          (Text.Utf8.encode m.1.toList).length < 2 ^ 64 ∧ m.2.Fits := by
        intro m hm
        obtain ⟨e, he, rfl⟩ := List.mem_map.mp hm
        have supplied : e ∈ smallSupplies := sorted.mem_iff.mp he
        simp only [smallSupplies, List.mem_cons, List.not_mem_nil, or_false] at supplied
        rcases supplied with rfl | rfl
        · refine ⟨by decide, Value.fits_record (by decide) (by decide) (by decide) (by decide) ?_⟩
          simp only [List.forall_mem_cons]
          exact ⟨emptyMapping, nofun⟩
        · refine ⟨by decide, Value.fits_record (by decide) (by decide) (by decide) (by decide) ?_⟩
          simp only [List.forall_mem_cons]
          exact ⟨emptySet, emptySet, nofun⟩
      refine .object ?_ (fun m hm => (each m hm).1) fun m hm => (each m hm).2
      rw [members, List.length_map, sorted.length_eq]
      decide
    have label : (Text.Utf8.encode "//app:tests".toList).length < 2 ^ 64 := by decide
    refine .object (by simp) ?_ ?_ <;> simp only [List.forall_mem_cons]
    · exact ⟨by decide, by decide, by decide, by decide, by decide, nofun⟩
    · exact ⟨.text label, filesFit, capabilitiesFit, .list (Nat.two_pow_pos 64) nofun, .null, nofun⟩

/-- A set that holds its file twice, and capabilities in another order, have the same bytes. -/
theorem bytes_small :
    (small (.ofList [smallFile]) smallSupplies).WellTyped ∧
      (small (.ofEntries [.child (.ofList [smallFile]), .artifact smallFile])
        smallSupplies.reverse).WellTyped ∧
      (small (.ofList [smallFile]) smallSupplies).bytes =
        (small (.ofEntries [.child (.ofList [smallFile]), .artifact smallFile])
          smallSupplies.reverse).bytes := by
  have flat := wellTyped_small (.ofList [smallFile]) smallSupplies (by decide) (List.Perm.refl _)
  have nested := wellTyped_small (.ofEntries [.child (.ofList [smallFile]), .artifact smallFile])
    smallSupplies.reverse (by decide) (List.reverse_perm _)
  refine ⟨flat, nested, (bytes_eq_iff flat nested).2.2.mpr ⟨rfl, by decide, ?_, rfl, rfl⟩⟩
  intro k
  cases k with
  | executionInfo => exact .some fun _ => rfl
  | instrumentedFiles => exact .some ⟨by decide, by decide⟩
  | runfiles | ideProject => exact .none

end Description

end TargetAssembly
