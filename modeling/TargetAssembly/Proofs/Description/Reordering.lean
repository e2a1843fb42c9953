import Mathlib.Data.List.Forall2
import TargetAssembly.Proofs.Description.Bytes
import TargetAssembly.Proofs.Value.Payload

/-!
# The digest does not see the order of mappings

A description holds mappings at many places: its capabilities are one, what a target requires of the
machine is another, and an extra value may hold any number of them at any depth.  `Alike` says that
two descriptions agree up to the order in which all of these were filled; the order of files and of
extra values counts.  `digest_of_alike` says that such descriptions have the same bytes and the same
digest, and that both are there where all keys are texts.  Nothing is asked of the lengths in them,
or of floating point numbers.
-/

namespace TargetAssembly

/-!
## Values that are alike

Two values are alike if they agree up to the order in which mappings list their entries and up to
the nesting of artifact sets, at any depth.  The payloads of such values agree up to the order of
members.  For a mapping this needs that no two of its keys have the same text, which holds of every
mapping whose keys are texts: the text and the whole number one would meet in the payload, and the
order would then say which value stays.
-/

namespace Value

/-- Two values agree up to the order of the entries of mappings and the nesting of sets: the entries
of one mapping can be put in such an order that their keys are those of the other and their values
are alike. -/
inductive Alike : Value → Value → Prop where
  | refl (v : Value) : Alike v v
  | artifacts {s t : ArtifactSet} (flat : s.toList = t.toList) : Alike (artifacts s) (artifacts t)
  | list {l m : List Value} (items : List.Forall₂ Alike l m) : Alike (list l) (list m)
  | tuple {l m : List Value} (items : List.Forall₂ Alike l m) : Alike (tuple l) (tuple m)
  | mapping (readOnly : Bool) {l k m : List (Value × Value)} (order : l.Perm k)
      (once : (l.filterMap fun e => e.1.plain.toOption).Nodup)
      (keys : k.map (fun e => e.1.plain) = m.map fun e => e.1.plain)
      (values : List.Forall₂ Alike (k.map Prod.snd) (m.map Prod.snd)) :
      Alike (mapping readOnly l) (mapping readOnly m)
  | record (type : String) {l m : List (String × Value)} (names : Keyed.keys l = Keyed.keys m)
      (values : List.Forall₂ Alike (l.map Prod.snd) (m.map Prod.snd)) :
      Alike (record type l) (record type m)

end Value

/-! ### Objects in another order -/

namespace Payload

/-- The members of an object with all values in canonical order. -/
def canonicalValues (members : List (String × Payload)) : List (String × Payload) :=
  members.map fun m => (m.1, m.2.canonical)

lemma keys_canonicalValues (members : List (String × Payload)) :
    Keyed.keys (canonicalValues members) = Keyed.keys members :=
  Keyed.keys_map_value canonical members

lemma canonicalValues_eq {l m : List (String × Payload)} (names : Keyed.keys l = Keyed.keys m)
    (values : l.map (fun e => e.2.canonical) = m.map fun e => e.2.canonical) :
    canonicalValues l = canonicalValues m := by
  refine Keyed.eq_of_keys_of_values ?_ ?_
  · rw [keys_canonicalValues, keys_canonicalValues, names]
  · rw [canonicalValues, canonicalValues, List.map_map, List.map_map]
    exact values

/-- Objects whose members are in another order, with values that agree up to order. -/
lemma canonical_object_of_perm {l k m : List (String × Payload)} (once : (Keyed.keys l).Nodup)
    (order : l.Perm k) (same : canonicalValues k = canonicalValues m) :
    (object l).canonical = (object m).canonical := by
  have perm : (canonicalValues l).Perm (canonicalValues m) := by
    rw [← same]
    exact order.map _
  have once' : (Keyed.keys (canonicalValues l)).Nodup := by rwa [keys_canonicalValues]
  rw [canonical_object, canonical_object]
  exact congrArg object (Cbor.sortByName_eq_of_perm perm once')

lemma canonical_object_ofList {l m : List (String × Payload)}
    (same : canonicalValues l = canonicalValues m) :
    (object (Keyed.ofList l)).canonical = (object (Keyed.ofList m)).canonical := by
  have built (k : List (String × Payload)) :
      canonicalValues (Keyed.ofList k) = Keyed.ofList (canonicalValues k) :=
    (Keyed.ofList_map_value canonical k).symm
  have both : canonicalValues (Keyed.ofList l) = canonicalValues (Keyed.ofList m) := by
    rw [built, built, same]
  rw [canonical_object, canonical_object]
  exact congrArg (object ∘ sortByName) both

lemma canonicalValues_recordMembers (type : String) (fields : List (String × Payload)) :
    canonicalValues (recordMembers type fields) = recordMembers type (canonicalValues fields) := by
  rw [recordMembers, recordMembers]
  split
  · simp [canonicalValues]
  · rfl

end Payload

/-! ### The payloads of alike values -/

namespace Value

open Payload (canonicalValues canonicalValues_eq)

/-- Lists that are related item by item have the same images under what the relation keeps. -/
lemma map_eq_of_forall₂ {α β : Type} {R : α → α → Prop} {f : α → β} {l m : List α}
    (related : List.Forall₂ R l m) (keeps : ∀ a ∈ l, ∀ b, R a b → f a = f b) :
    l.map f = m.map f := by
  induction related with
  | nil => rfl
  | @cons a b l m first _ ih =>
    obtain ⟨head, tail⟩ := List.forall_mem_cons.mp keeps
    rw [List.map_cons, List.map_cons, head b first, ih tail]

/-- Two values have payloads that agree up to the order of members, or neither has one. -/
structure PayloadsAgree (v w : Value) : Prop where
  overlong : v.KeyOverlong ↔ w.KeyOverlong
  content : ¬ v.KeyOverlong → v.content.canonical = w.content.canonical

namespace PayloadsAgree

variable {l m : List Value} (each : List.Forall₂ PayloadsAgree l m)

include each

lemma exists_keyOverlong_iff : (∃ v ∈ l, v.KeyOverlong) ↔ ∃ w ∈ m, w.KeyOverlong := by
  induction each with
  | nil => rfl
  | cons first _ ih =>
    rw [List.exists_mem_cons_iff, List.exists_mem_cons_iff, first.overlong, ih]

lemma map_content_eq (short : ¬ ∃ v ∈ l, v.KeyOverlong) :
    l.map (fun v => v.content.canonical) = m.map fun w => w.content.canonical :=
  map_eq_of_forall₂ each fun v hv _ agree => agree.content fun long => short ⟨v, hv, long⟩

lemma canonical_list_eq (short : ¬ ∃ v ∈ l, v.KeyOverlong) :
    (Payload.list (l.map Value.content)).canonical =
      (Payload.list (m.map Value.content)).canonical := by
  rw [Payload.canonical_list, Payload.canonical_list, List.map_map, List.map_map]
  exact congrArg Payload.list (map_content_eq each short)

lemma list : PayloadsAgree (list l) (list m) := by
  refine ⟨by rw [keyOverlong_list_iff, keyOverlong_list_iff, exists_keyOverlong_iff each], fun short => ?_⟩
  rw [keyOverlong_list_iff] at short
  rw [content_list, content_list, canonical_list_eq each short]

lemma tuple : PayloadsAgree (tuple l) (tuple m) := by
  refine ⟨?_, fun short => ?_⟩
  · rw [keyOverlong_tuple_iff, keyOverlong_tuple_iff, exists_keyOverlong_iff each]
  · rw [keyOverlong_tuple_iff] at short
    rw [content_tuple, content_tuple, canonical_list_eq each short]

end PayloadsAgree

/-! ### Mappings and records -/

lemma exists_plainOverlong_iff (entries : List (Value × Value)) :
    (∃ e ∈ entries, e.1.PlainOverlong) ↔
      .error .tooManyDigits ∈ entries.map fun e => e.1.plain := by
  simp [plain_eq_error_iff]

lemma keyOverlong_mapping_parts {readOnly : Bool} {entries : List (Value × Value)} :
    KeyOverlong (mapping readOnly entries) ↔
      (∃ e ∈ entries, e.1.PlainOverlong) ∨ ∃ v ∈ entries.map Prod.snd, v.KeyOverlong := by
  rw [keyOverlong_mapping_iff]
  simp only [List.mem_map, exists_exists_and_eq_and, and_or_left, exists_or]

lemma keyOverlong_record_parts {type : String} {fields : List (String × Value)} :
    KeyOverlong (record type fields) ↔ ∃ v ∈ fields.map Prod.snd, v.KeyOverlong := by
  rw [keyOverlong_record_iff]
  simp only [List.mem_map, exists_exists_and_eq_and]

lemma keyName_eq {l m : List (Value × Value)}
    (keys : l.map (fun e => e.1.plain) = m.map fun e => e.1.plain) :
    (l.map fun e => e.1.keyName) = m.map fun e => e.1.keyName := by
  have names := congrArg (List.map fun r => r.toOption.getD "") keys
  rwa [List.map_map, List.map_map] at names

lemma canonical_content_mapping (readOnly : Bool) {l k m : List (Value × Value)}
    (order : l.Perm k) (once : (l.map fun e => e.1.keyName).Nodup)
    (keys : k.map (fun e => e.1.keyName) = m.map fun e => e.1.keyName)
    (values : (k.map Prod.snd).map (fun v => v.content.canonical) =
      (m.map Prod.snd).map fun v => v.content.canonical) :
    (mapping readOnly l).content.canonical = (mapping readOnly m).content.canonical := by
  -- no two keys have one text, so the members of the payload are the entries
  have once_k : (k.map fun e => e.1.keyName).Nodup := (order.map _).nodup_iff.mp once
  rw [content_mapping_of_nodup readOnly once, content_mapping_of_nodup readOnly (keys ▸ once_k)]
  refine Payload.canonical_object_of_perm ?_ (order.map _) (canonicalValues_eq ?_ ?_)
  · rw [Keyed.keys, List.map_map]
    exact once
  · rw [Keyed.keys, Keyed.keys, List.map_map, List.map_map]
    exact keys
  · rw [List.map_map, List.map_map] at values ⊢
    exact values

lemma payloadsAgree_mapping (readOnly : Bool) {l k m : List (Value × Value)} (order : l.Perm k)
    (once : (l.filterMap fun e => e.1.plain.toOption).Nodup)
    (keys : k.map (fun e => e.1.plain) = m.map fun e => e.1.plain)
    (each : List.Forall₂ PayloadsAgree (k.map Prod.snd) (m.map Prod.snd)) :
    PayloadsAgree (mapping readOnly l) (mapping readOnly m) := by
  have moved : KeyOverlong (mapping readOnly l) ↔ KeyOverlong (mapping readOnly k) := by
    rw [keyOverlong_mapping_iff, keyOverlong_mapping_iff]
    exact exists_congr fun e => by rw [order.mem_iff]
  refine ⟨?_, fun short => ?_⟩
  · rw [moved, keyOverlong_mapping_parts, keyOverlong_mapping_parts, exists_plainOverlong_iff,
      exists_plainOverlong_iff, keys, PayloadsAgree.exists_keyOverlong_iff each]
  · have short_k : ¬ KeyOverlong (mapping readOnly k) := fun long => short (moved.mpr long)
    rw [keyOverlong_mapping_parts, not_or] at short short_k
    rw [filterMap_plain short.1] at once
    exact canonical_content_mapping readOnly order once (keyName_eq keys)
      (PayloadsAgree.map_content_eq each short_k.2)

lemma canonical_content_record (type : String) {l m : List (String × Value)}
    (names : Keyed.keys l = Keyed.keys m)
    (values : (l.map Prod.snd).map (fun v => v.content.canonical) =
      (m.map Prod.snd).map fun v => v.content.canonical) :
    (record type l).content.canonical = (record type m).content.canonical := by
  have fields : canonicalValues (fieldContents l) = canonicalValues (fieldContents m) := by
    rw [fieldContents_eq_map, fieldContents_eq_map]
    refine canonicalValues_eq ?_ ?_
    · rw [Keyed.keys_map_value, Keyed.keys_map_value, names]
    · rw [List.map_map, List.map_map] at values ⊢
      exact values
  rw [content, content]
  refine Payload.canonical_object_ofList ?_
  rw [Payload.canonicalValues_recordMembers, Payload.canonicalValues_recordMembers, fields]

lemma payloadsAgree_record (type : String) {l m : List (String × Value)}
    (names : Keyed.keys l = Keyed.keys m)
    (each : List.Forall₂ PayloadsAgree (l.map Prod.snd) (m.map Prod.snd)) :
    PayloadsAgree (record type l) (record type m) := by
  refine ⟨?_, fun short => ?_⟩
  · rw [keyOverlong_record_parts, keyOverlong_record_parts, PayloadsAgree.exists_keyOverlong_iff each]
  · rw [keyOverlong_record_parts] at short
    exact canonical_content_record type names (PayloadsAgree.map_content_eq each short)

/-- The payloads of alike values agree up to the order of members. -/
lemma Alike.payloadsAgree {v w : Value} (h : v.Alike w) : PayloadsAgree v w := by
  -- the second motive is for lists of alike values
  refine @Alike.rec (fun v w _ => PayloadsAgree v w) (fun l m _ => List.Forall₂ PayloadsAgree l m)
    ?refl ?artifacts ?list ?tuple ?mapping ?record .nil ?cons v w h
  case refl => exact fun _ => ⟨Iff.rfl, fun _ => rfl⟩
  case artifacts =>
    intro s t flat
    refine ⟨iff_of_false nofun nofun, fun _ => ?_⟩
    rw [content_artifacts, content_artifacts, Payload.canonical_ofArtifacts_iff]
    exact flat
  case list =>
    intro l m _ ih
    exact .list ih
  case tuple =>
    intro l m _ ih
    exact .tuple ih
  case mapping =>
    intro readOnly l k m order once keys _ ih
    exact payloadsAgree_mapping readOnly order once keys ih
  case record =>
    intro type l m names _ ih
    exact payloadsAgree_record type names ih
  case cons =>
    intro v w l m _ _ head tail
    exact .cons head tail

lemma Alike.agree {l m : List Value} (each : List.Forall₂ Alike l m) :
    List.Forall₂ PayloadsAgree l m := each.imp fun _ _ alike => alike.payloadsAgree

/-- Alike values are of one type. -/
lemma Alike.typeName_eq {v w : Value} (h : v.Alike w) : v.typeName = w.typeName := by
  cases h <;> rfl

/-- Mappings of texts to texts with the same entries are alike. -/
lemma alike_ofTextMapping {l m : List (String × String)} (order : l.Perm m)
    (once : (Keyed.keys l).Nodup) : (ofTextMapping l).Alike (ofTextMapping m) := by
  refine .mapping true (order.map _) ?_ rfl (List.forall₂_same.mpr fun v _ => .refl v)
  have names : ((l.map fun e => (text e.1, text e.2)).filterMap fun e => e.1.plain.toOption) =
      Keyed.keys l := by
    rw [List.filterMap_map, Keyed.keys, ← List.filterMap_eq_map]
    rfl
  rwa [names]

end Value

end TargetAssembly

namespace TargetAssembly.Description

/-- Two descriptions agree up to the order of the capabilities and of the entries of mappings, at
any depth, and up to the nesting of sets.  Each kind of capability is supplied once. -/
structure Alike (d e : Description) : Prop where
  label : d.label = e.label
  files : d.filesToBuild.toList = e.filesToBuild.toList
  once : d.kinds.Nodup
  capabilities : ∃ k, d.capabilities.Perm k ∧ Keyed.keys k = e.kinds ∧
    List.Forall₂ Value.Alike (k.map fun c => c.2.toValue) (e.capabilities.map fun c => c.2.toValue)
  extras : List.Forall₂ Value.Alike d.extras e.extras
  executable : d.executable = e.executable

/-- The members that capabilities become, in the order of the capabilities. -/
def suppliedMembers (l : List (CapabilityKind × Supply)) : List (String × Payload) :=
  l.map fun c => (c.1.text, c.2.toValue.content)

lemma keys_suppliedMembers (l : List (CapabilityKind × Supply)) :
    Keyed.keys (suppliedMembers l) = (Keyed.keys l).map CapabilityKind.text := by
  simp [suppliedMembers, Keyed.keys]

variable {d e : Description}

lemma members_perm (d : Description) : d.members.Perm (suppliedMembers d.capabilities) :=
  d.sortedCapabilities_perm.map _

lemma nodup_suppliedMembers {l : List (CapabilityKind × Supply)} (once : (Keyed.keys l).Nodup) :
    (Keyed.keys (suppliedMembers l)).Nodup := by
  rw [keys_suppliedMembers]
  exact once.map CapabilityKind.text_injective

/-- The order in which capabilities were supplied is lost where members are put in order. -/
lemma canonical_members (once : d.kinds.Nodup) :
    (Payload.object d.members).canonical =
      (Payload.object (suppliedMembers d.capabilities)).canonical := by
  have once' : (Keyed.keys d.members).Nodup :=
    (d.members_perm.map Prod.fst).nodup_iff.mpr (nodup_suppliedMembers once)
  exact Payload.canonical_object_of_perm once' d.members_perm rfl

namespace Alike

lemma once_right (h : d.Alike e) : e.kinds.Nodup := by
  obtain ⟨k, perm, kinds, -⟩ := h.capabilities
  rw [← kinds]
  exact (perm.map Prod.fst).nodup_iff.mp h.once

lemma keyOverlong_iff (h : d.Alike e) : d.KeyOverlong ↔ e.KeyOverlong := by
  obtain ⟨k, perm, -, values⟩ := h.capabilities
  have supplied := Value.PayloadsAgree.exists_keyOverlong_iff (Value.Alike.agree values)
  have extras := Value.PayloadsAgree.exists_keyOverlong_iff (Value.Alike.agree h.extras)
  simp only [List.mem_map, exists_exists_and_eq_and] at supplied
  have moved : (∃ c ∈ d.capabilities, c.2.toValue.KeyOverlong) ↔
      ∃ c ∈ k, c.2.toValue.KeyOverlong := exists_congr fun c => by rw [perm.mem_iff]
  exact or_congr (moved.trans supplied) extras

section

variable (h : d.Alike e) (short : ¬ d.KeyOverlong)

include h short

lemma canonical_members_eq :
    (Payload.object d.members).canonical = (Payload.object e.members).canonical := by
  obtain ⟨k, perm, kinds, values⟩ := h.capabilities
  have short' : ¬ ∃ v ∈ k.map fun c => c.2.toValue, v.KeyOverlong := by
    simp only [List.mem_map, exists_exists_and_eq_and]
    rintro ⟨c, hc, long⟩
    exact short (.inl ⟨c, perm.mem_iff.mpr hc, long⟩)
  have same : Payload.canonicalValues (suppliedMembers k) =
      Payload.canonicalValues (suppliedMembers e.capabilities) := by
    refine Payload.canonicalValues_eq ?_ ?_
    · rw [keys_suppliedMembers, keys_suppliedMembers, kinds]
      rfl
    · have payloads :=
        Value.PayloadsAgree.map_content_eq (Value.Alike.agree values) short'
      rw [List.map_map, List.map_map] at payloads
      rw [suppliedMembers, suppliedMembers, List.map_map, List.map_map]
      exact payloads
  rw [canonical_members h.once, canonical_members h.once_right]
  exact Payload.canonical_object_of_perm (nodup_suppliedMembers h.once) (perm.map _) same

lemma canonical_extras_eq :
    (Payload.list (d.extras.map extraContent)).canonical =
      (Payload.list (e.extras.map extraContent)).canonical := by
  rw [Payload.canonical_list, Payload.canonical_list, List.map_map, List.map_map]
  refine congrArg Payload.list (Value.map_eq_of_forall₂ h.extras fun v hv w alike => ?_)
  have short' : ¬ v.KeyOverlong := fun long => short (.inr ⟨v, hv, long⟩)
  exact canonical_extraContent_parts.mpr ⟨alike.typeName_eq, alike.payloadsAgree.content short'⟩

/-- The payloads of alike descriptions agree up to the order of members. -/
lemma canonical_content_eq : d.content.canonical = e.content.canonical := by
  have files : (Payload.ofArtifacts d.filesToBuild).canonical =
      (Payload.ofArtifacts e.filesToBuild).canonical :=
    Payload.canonical_ofArtifacts_iff.mpr h.files
  have capabilities := h.canonical_members_eq short
  have extras := h.canonical_extras_eq short
  rw [content, content, Payload.canonical_record_iff (by rfl) (by simp [Keyed.keys])]
  simp only [List.map_cons, List.map_nil, h.label, files, capabilities, extras, h.executable]

end

/-- Alike descriptions have the same bytes, or none for the same reason. -/
lemma bytes_eq (h : d.Alike e) : d.bytes = e.bytes := by
  rw [bytes, bytes]
  by_cases long : d.KeyOverlong
  · rw [d.payload_limited.error long, e.payload_limited.error (h.keyOverlong_iff.mp long)]
  · have short : ¬ e.KeyOverlong := fun long' => long (h.keyOverlong_iff.mpr long')
    rw [d.payload_limited.ok long, e.payload_limited.ok short]
    show Cbor.write d.content = Cbor.write e.content
    rw [← Cbor.write_canonical d.content, h.canonical_content_eq long, Cbor.write_canonical]

end Alike

/-! ## Main result -/

/-- Alike descriptions have the same bytes and the same digest, or neither for the same reason.
Both are there if the keys of all mappings are texts and no problem is among the parts. -/
theorem digest_of_alike (h : d.Alike e) :
    d.bytes = e.bytes ∧ d.digest = e.digest ∧
      (d.TextKeyed → ∃ bs, d.bytes = .ok bs ∧ d.digest = .ok (Digest.sha256 bs)) := by
  have same : d.bytes = e.bytes := h.bytes_eq
  refine ⟨same, ?_, fun texts => ⟨_, texts.bytes_eq, ?_⟩⟩
  · rw [digest, digest, same]
  · rw [digest, texts.bytes_eq]
    rfl

/-- What a machine has to provide. -/
def provided : List (String × String) := [("requires-darwin", ""), ("cpu", "2")]

/-- A tool and its options, in an extra value. -/
def options : List (Value × Value) :=
  [(.text "tool", .text "llvm-cov"), (.text "flags", .list [.ofTextMapping provided])]

/-- A description of two capabilities and one extra value. -/
def ordered : Description :=
  { label := "//app:tests"
    filesToBuild := .ofList [smallFile]
    capabilities := [(.executionInfo, .capability (.executionInfo ⟨provided⟩)),
      (.instrumentedFiles, .capability (.instrumentedFiles {}))]
    extras := [.mapping false options] }

/-- The same with all mappings filled the other way round, also the one inside the extra value. -/
def reordered : Description :=
  { label := "//app:tests"
    filesToBuild := .ofList [smallFile]
    capabilities := [(.instrumentedFiles, .capability (.instrumentedFiles {})),
      (.executionInfo, .capability (.executionInfo ⟨provided.reverse⟩))]
    extras := [.mapping false [
      (.text "flags", .list [.ofTextMapping provided.reverse]),
      (.text "tool", .text "llvm-cov")]] }

lemma alike_provided :
    (Value.ofTextMapping provided).Alike (.ofTextMapping provided.reverse) :=
  Value.alike_ofTextMapping (List.reverse_perm provided).symm (by decide)

lemma alike_reordered : ordered.Alike reordered := by
  have info : (Capability.executionInfo ⟨provided⟩).toValue.Alike
      (Capability.executionInfo ⟨provided.reverse⟩).toValue :=
    .record "ExecutionInfo" rfl (.cons alike_provided .nil)
  have extra : (Value.mapping false options).Alike (.mapping false [
      (.text "flags", .list [.ofTextMapping provided.reverse]),
      (.text "tool", .text "llvm-cov")]) :=
    .mapping false (List.reverse_perm options).symm (by decide) rfl
      (.cons (.list (.cons alike_provided .nil)) (.cons (.refl _) .nil))
  refine ⟨rfl, rfl, by decide, ?_, .cons extra .nil, rfl⟩
  exact ⟨ordered.capabilities.reverse, (List.reverse_perm _).symm, rfl,
    .cons (.refl _) (.cons info .nil)⟩

lemma textKeyed_ordered : ordered.TextKeyed := by
  have flags : (Value.list [.ofTextMapping provided]).TextKeyed := .list (by simp)
  refine ⟨?_, ?_⟩
  · simp only [ordered, List.forall_mem_cons]
    exact ⟨(Capability.executionInfo ⟨provided⟩).textKeyed_toValue,
      (Capability.instrumentedFiles {}).textKeyed_toValue, fun _ h => absurd h List.not_mem_nil⟩
  · simp only [ordered, List.forall_mem_singleton]
    refine .mapping false ?_ ?_ <;> simp [options, flags]

/-- Two descriptions that were filled in different orders have one digest. -/
theorem digest_reordered :
    ordered.Alike reordered ∧ ordered.kinds ≠ reordered.kinds ∧ ordered.TextKeyed ∧
      ∃ bs, ordered.bytes = .ok bs ∧ reordered.bytes = .ok bs ∧
        reordered.digest = .ok (Digest.sha256 bs) := by
  obtain ⟨same, digests, present⟩ := digest_of_alike alike_reordered
  obtain ⟨bs, written, digest⟩ := present textKeyed_ordered
  exact ⟨alike_reordered, by decide, textKeyed_ordered, bs, written, same ▸ written,
    digests ▸ digest⟩

end TargetAssembly.Description
