import TargetAssembly.Capability
import TargetAssembly.Proofs.Cbor.RoundTrip
import TargetAssembly.Proofs.Value.Written

/-!
# What payloads hold

A value has a payload unless a key of a mapping in it has no plain text.  `content` is what the
payload holds then, and `payload_eq_ok_iff` and `payload_eq_error_iff` say that nothing else can go
wrong.  So all that is said of payloads is said of `content`.

The views of typed data as values become payloads from which the data can be told: texts,
artifacts, lists of them and records.  Each `canonical_…_iff` says for one view that two payloads
agree up to the order of members exactly if the data are equal, and each `floatFree_…` that there
is no floating point number in it.  `fits_record` says when the lengths in a record are small enough
to be written.
-/

namespace TargetAssembly

namespace Payload

/-! ## Lists -/

/-- Lists of payloads tell the lists that they are made of, if each payload tells its item. -/
lemma canonical_list_map_iff {α : Type} {f : α → Payload}
    (tells : ∀ a b, (f a).canonical = (f b).canonical → a = b) (l m : List α) :
    (list (l.map f)).canonical = (list (m.map f)).canonical ↔ l = m := by
  have injective : Function.Injective fun a => (f a).canonical := tells
  rw [canonical_list, canonical_list, List.map_map, List.map_map, Payload.list.injEq]
  exact (List.map_injective_iff.mpr injective).eq_iff

@[simp] lemma floatFree_text (s : String) : (text s).FloatFree := .text s

@[simp] lemma floatFree_bool (b : Bool) : (bool b).FloatFree := .bool b

lemma floatFree_list_map {α : Type} {f : α → Payload} {l : List α}
    (h : ∀ a ∈ l, (f a).FloatFree) : (list (l.map f)).FloatFree := by
  refine .list fun p hp => ?_
  obtain ⟨a, ha, rfl⟩ := List.mem_map.mp hp
  exact h a ha

/-! ## Artifacts -/

@[simp] lemma canonical_ofArtifact_iff {a b : Artifact} :
    (ofArtifact a).canonical = (ofArtifact b).canonical ↔ a = b := by
  rw [ofArtifact, ofArtifact, canonical_record_iff (by rfl) (by simp [Keyed.keys])]
  cases a
  cases b
  simp [and_comm]

@[simp] lemma floatFree_ofArtifact (a : Artifact) : (ofArtifact a).FloatFree :=
  .object (by simp)

@[simp] lemma canonical_ofArtifact?_iff {a b : Option Artifact} :
    (ofArtifact? a).canonical = (ofArtifact? b).canonical ↔ a = b := by
  cases a with
  | none =>
    cases b with
    | none => simp
    | some b => exact iff_of_false nofun nofun
  | some a =>
    cases b with
    | none => exact iff_of_false nofun nofun
    | some b => simp [ofArtifact?]

@[simp] lemma floatFree_ofArtifact? (a : Option Artifact) : (ofArtifact? a).FloatFree := by
  cases a with
  | none => exact .null
  | some a => exact floatFree_ofArtifact a

@[simp] lemma canonical_ofArtifacts_iff {s t : ArtifactSet} :
    (ofArtifacts s).canonical = (ofArtifacts t).canonical ↔ s.toList = t.toList :=
  canonical_list_map_iff (fun _ _ => canonical_ofArtifact_iff.mp) s.toList t.toList

@[simp] lemma floatFree_ofArtifacts (s : ArtifactSet) : (ofArtifacts s).FloatFree :=
  floatFree_list_map fun a _ => floatFree_ofArtifact a

lemma problemType?_ofArtifact (a : Artifact) : Cbor.problemType? (ofArtifact a) = none := by
  rw [ofArtifact, Cbor.problemType?_object_eq_none_iff]
  simp [Cbor.problemType?]

lemma problemType?_ofArtifacts (s : ArtifactSet) : Cbor.problemType? (ofArtifacts s) = none :=
  Cbor.problemType?_list_eq_none_iff.mpr
    (List.forall_mem_map.mpr fun a _ => problemType?_ofArtifact a)

lemma problemType?_ofArtifact? (a : Option Artifact) :
    Cbor.problemType? (ofArtifact? a) = none := by
  cases a with
  | none => rfl
  | some a => exact problemType?_ofArtifact a

/-! ## Records -/

/-- What is taken for an artifact has its members under other names, with the same values. -/
lemma exists_of_mem_recordMembers {type : String} {fields : List (String × Payload)}
    {m : String × Payload} (h : m ∈ recordMembers type fields) : ∃ f ∈ fields, m.2 = f.2 := by
  rw [recordMembers] at h
  split_ifs at h
  · obtain ⟨f, hf, rfl⟩ := List.mem_map.mp h
    exact ⟨f, hf, rfl⟩
  · exact ⟨m, h, rfl⟩

end Payload

namespace Value

/-! ## What a payload holds -/

/-- The name under which a key stands; there is none for keys without plain text. -/
def keyName (k : Value) : String := k.plain.toOption.getD ""

mutual

/-- What the payload of a value holds. -/
def content : Value → Payload
  | null => .null
  | bool b => .bool b
  | int i => .int i
  | float x => .float x
  | text s => .text s
  | bytes bs => .bytes bs
  | artifact a => .ofArtifact a
  | artifacts s => .ofArtifacts s
  | enumerated e => .text e.value
  | list items => .list (contents items)
  | tuple items => .list (contents items)
  | mapping _ entries => .object (Keyed.ofList (entryContents entries))
  | record type fields => .object (Keyed.ofList (Payload.recordMembers type (fieldContents fields)))
  | problem occurrence kind message hint context => .problem occurrence kind message hint context

/-- What the payloads of the items of a list hold. -/
def contents : List Value → List Payload
  | [] => []
  | v :: rest => v.content :: contents rest

/-- What the payloads of the entries of a mapping hold, under the names of their keys. -/
def entryContents : List (Value × Value) → List (String × Payload)
  | [] => []
  | (k, v) :: rest => (k.keyName, v.content) :: entryContents rest

/-- What the payloads of the fields of a record hold. -/
def fieldContents : List (String × Value) → List (String × Payload)
  | [] => []
  | (name, v) :: rest => (name, v.content) :: fieldContents rest

end

/-- A key of a mapping in a value has no plain text. -/
inductive KeyOverlong : Value → Prop where
  | list {items : List Value} {v : Value} (mem : v ∈ items) (long : KeyOverlong v) :
      KeyOverlong (list items)
  | tuple {items : List Value} {v : Value} (mem : v ∈ items) (long : KeyOverlong v) :
      KeyOverlong (tuple items)
  | key {readOnly : Bool} {entries : List (Value × Value)} {e : Value × Value} (mem : e ∈ entries)
      (long : PlainOverlong e.1) : KeyOverlong (mapping readOnly entries)
  | bound {readOnly : Bool} {entries : List (Value × Value)} {e : Value × Value}
      (mem : e ∈ entries) (long : KeyOverlong e.2) : KeyOverlong (mapping readOnly entries)
  | field {type : String} {fields : List (String × Value)} {f : String × Value} (mem : f ∈ fields)
      (long : KeyOverlong f.2) : KeyOverlong (record type fields)

lemma keyOverlong_list_iff {items : List Value} :
    KeyOverlong (list items) ↔ ∃ v ∈ items, v.KeyOverlong := by
  constructor
  · rintro ⟨⟩
    exact ⟨_, ‹_›, ‹_›⟩
  · rintro ⟨v, mem, long⟩
    exact .list mem long

lemma keyOverlong_tuple_iff {items : List Value} :
    KeyOverlong (tuple items) ↔ ∃ v ∈ items, v.KeyOverlong := by
  constructor
  · rintro ⟨⟩
    exact ⟨_, ‹_›, ‹_›⟩
  · rintro ⟨v, mem, long⟩
    exact .tuple mem long

lemma keyOverlong_mapping_iff {readOnly : Bool} {entries : List (Value × Value)} :
    KeyOverlong (mapping readOnly entries) ↔
      ∃ e ∈ entries, e.1.PlainOverlong ∨ e.2.KeyOverlong := by
  constructor
  · intro h
    cases h with
    | key mem long => exact ⟨_, mem, .inl long⟩
    | bound mem long => exact ⟨_, mem, .inr long⟩
  · rintro ⟨e, mem, long | long⟩
    · exact .key mem long
    · exact .bound mem long

lemma keyOverlong_record_iff {type : String} {fields : List (String × Value)} :
    KeyOverlong (record type fields) ↔ ∃ f ∈ fields, f.2.KeyOverlong := by
  constructor
  · rintro ⟨⟩
    exact ⟨_, ‹_›, ‹_›⟩
  · rintro ⟨f, mem, long⟩
    exact .field mem long

lemma plain_limited (k : Value) : Limited k.plain k.PlainOverlong k.keyName := by
  obtain ⟨s, plain⟩ := k.isPlainLimited
  refine ⟨plain.error, fun short => ?_⟩
  rw [keyName, plain.ok short]
  rfl

/-- A text is its own plain text. -/
lemma not_plainOverlong_text (s : String) : ¬ (text s).PlainOverlong := by
  rintro ⟨-, ⟨⟩⟩

/-- Where all keys have plain text these are their names. -/
lemma filterMap_plain {entries : List (Value × Value)}
    (short : ¬ ∃ e ∈ entries, e.1.PlainOverlong) :
    (entries.filterMap fun e => e.1.plain.toOption) = entries.map fun e => e.1.keyName := by
  rw [← List.filterMap_eq_map]
  refine List.filterMap_congr fun e he => ?_
  rw [e.1.plain_limited.ok fun long => short ⟨e, he, long⟩]
  rfl

lemma payloads_limited {items : List Value}
    (each : ∀ v ∈ items, Limited v.payload v.KeyOverlong v.content) :
    Limited (payloads items) (∃ v ∈ items, v.KeyOverlong) (contents items) := by
  induction items with
  | nil => exact (Limited.of_ok []).congr (by simp)
  | cons v items ih =>
    obtain ⟨first, others⟩ := List.forall_mem_cons.mp each
    exact (first.bind (ih others).map).congr (by simp)

lemma entryPayloads_limited {entries : List (Value × Value)}
    (each : ∀ e ∈ entries, Limited e.2.payload e.2.KeyOverlong e.2.content) :
    Limited (entryPayloads entries) (∃ e ∈ entries, e.1.PlainOverlong ∨ e.2.KeyOverlong)
      (entryContents entries) := by
  induction entries with
  | nil => exact (Limited.of_ok []).congr (by simp)
  | cons e entries ih =>
    obtain ⟨first, others⟩ := List.forall_mem_cons.mp each
    exact (e.1.plain_limited.bind (first.bind (ih others).map)).congr (by simp [or_assoc])

lemma fieldPayloads_limited {fields : List (String × Value)}
    (each : ∀ f ∈ fields, Limited f.2.payload f.2.KeyOverlong f.2.content) :
    Limited (fieldPayloads fields) (∃ f ∈ fields, f.2.KeyOverlong) (fieldContents fields) := by
  induction fields with
  | nil => exact (Limited.of_ok []).congr (by simp)
  | cons f fields ih =>
    obtain ⟨first, others⟩ := List.forall_mem_cons.mp each
    exact (first.bind (ih others).map).congr (by simp)

lemma payload_limited (v : Value) : Limited v.payload v.KeyOverlong v.content := by
  induction v using induction_parts with
  | list items ih => exact (payloads_limited ih).map.congr keyOverlong_list_iff.symm
  | tuple items ih => exact (payloads_limited ih).map.congr keyOverlong_tuple_iff.symm
  | mapping readOnly entries ih =>
    have parts := entryPayloads_limited fun e he => (ih e he).2
    exact parts.map.congr keyOverlong_mapping_iff.symm
  | record type fields ih => exact (fieldPayloads_limited ih).map.congr keyOverlong_record_iff.symm
  | _ => exact (Limited.of_ok _).congr (iff_of_false id nofun)

theorem payload_eq_ok_iff {v : Value} {p : Payload} :
    v.payload = .ok p ↔ ¬ v.KeyOverlong ∧ p = v.content :=
  v.payload_limited.eq_ok_iff

/-- A value has no payload exactly if a key in it has no plain text. -/
theorem payload_eq_error_iff {v : Value} {m : Misfit} :
    v.payload = .error m ↔ m = .tooManyDigits ∧ v.KeyOverlong :=
  v.payload_limited.eq_error_iff

/-! ## The cases of contents -/

@[simp] lemma content_null : null.content = .null := rfl

@[simp] lemma content_bool (b : Bool) : (bool b).content = .bool b := rfl

@[simp] lemma content_text (s : String) : (text s).content = .text s := rfl

@[simp] lemma content_artifact (a : Artifact) : (artifact a).content = .ofArtifact a := rfl

@[simp] lemma content_artifacts (s : ArtifactSet) : (artifacts s).content = .ofArtifacts s := rfl

@[simp] lemma content_enumerated (e : Enumerated) : (enumerated e).content = .text e.value := rfl

lemma contents_eq_map (items : List Value) : contents items = items.map content := by
  induction items with
  | nil => rfl
  | cons v items ih => exact congrArg (v.content :: ·) ih

@[simp] lemma content_list (items : List Value) :
    (list items).content = .list (items.map content) :=
  congrArg Payload.list (contents_eq_map items)

@[simp] lemma content_tuple (items : List Value) :
    (tuple items).content = .list (items.map content) :=
  congrArg Payload.list (contents_eq_map items)

lemma entryContents_eq_map (entries : List (Value × Value)) :
    entryContents entries = entries.map fun e => (e.1.keyName, e.2.content) := by
  induction entries with
  | nil => rfl
  | cons e entries ih => exact congrArg ((e.1.keyName, e.2.content) :: ·) ih

lemma content_mapping (readOnly : Bool) (entries : List (Value × Value)) :
    (mapping readOnly entries).content =
      .object (Keyed.ofList (entries.map fun e => (e.1.keyName, e.2.content))) :=
  congrArg (Payload.object ∘ Keyed.ofList) (entryContents_eq_map entries)

/-- A mapping no two keys of which have one text becomes the object of its entries. -/
lemma content_mapping_of_nodup (readOnly : Bool) {entries : List (Value × Value)}
    (once : (entries.map fun e => e.1.keyName).Nodup) :
    (mapping readOnly entries).content =
      .object (entries.map fun e => (e.1.keyName, e.2.content)) := by
  rw [content_mapping, Keyed.ofList_eq_self]
  rw [Keyed.keys, List.map_map]
  exact once

lemma fieldContents_eq_map (fields : List (String × Value)) :
    fieldContents fields = fields.map fun f => (f.1, f.2.content) := by
  induction fields with
  | nil => rfl
  | cons f fields ih => exact congrArg ((f.1, f.2.content) :: ·) ih

/-- A record that is not taken for an artifact becomes the object of its fields. -/
lemma content_record {type : String} {fields : List (String × Value)} (ordinary : type ≠ "Artifact")
    (once : (Keyed.keys fields).Nodup) :
    (record type fields).content = .object (fields.map fun f => (f.1, f.2.content)) := by
  have members : Payload.recordMembers type (fieldContents fields) =
      fields.map fun f => (f.1, f.2.content) := by
    rw [Payload.recordMembers, if_neg ordinary, fieldContents_eq_map]
  have built : Keyed.ofList (fields.map fun f => (f.1, f.2.content)) =
      fields.map fun f => (f.1, f.2.content) :=
    Keyed.ofList_eq_self (by rwa [Keyed.keys_map_value])
  exact congrArg Payload.object ((congrArg Keyed.ofList members).trans built)

/-- A mapping of texts that binds every key once becomes the object of its entries. -/
lemma content_ofTextMapping {entries : List (String × String)} (once : (Keyed.keys entries).Nodup) :
    (ofTextMapping entries).content = .object (entries.map fun e => (e.1, .text e.2)) := by
  have once' : ((entries.map fun e => (text e.1, text e.2)).map fun e => e.1.keyName).Nodup := by
    rw [List.map_map]
    exact once
  rw [ofTextMapping, content_mapping_of_nodup true once', List.map_map]
  rfl

/-! ## Views of lists and options -/

lemma content_tuple_map {α : Type} (f : α → Value) (l : List α) :
    (tuple (l.map f)).content = .list (l.map fun a => (f a).content) := by
  rw [content_tuple, List.map_map]
  rfl

@[simp] lemma canonical_content_ofText?_iff {s t : Option String} :
    (ofText? s).content.canonical = (ofText? t).content.canonical ↔ s = t := by
  cases s <;> cases t <;> simp [ofText?]

@[simp] lemma canonical_content_ofArtifact?_iff {a b : Option Artifact} :
    (ofArtifact? a).content.canonical = (ofArtifact? b).content.canonical ↔ a = b := by
  have same : ∀ o : Option Artifact, (ofArtifact? o).content = .ofArtifact? o := by
    rintro (_ | a) <;> simp [ofArtifact?, Payload.ofArtifact?]
  rw [same, same, Payload.canonical_ofArtifact?_iff]

@[simp] lemma canonical_content_ofTexts_iff {l m : List String} :
    (ofTexts l).content.canonical = (ofTexts m).content.canonical ↔ l = m := by
  rw [ofTexts, ofTexts, content_tuple_map, content_tuple_map]
  exact Payload.canonical_list_map_iff (fun _ _ h => by simpa using h) l m

@[simp] lemma canonical_content_ofArtifacts_iff {l m : List Artifact} :
    (ofArtifacts l).content.canonical = (ofArtifacts m).content.canonical ↔ l = m := by
  rw [ofArtifacts, ofArtifacts, content_tuple_map, content_tuple_map]
  exact Payload.canonical_list_map_iff (fun _ _ h => by simpa using h) l m

@[simp] lemma canonical_content_ofTextPairs_iff {l m : List (String × String)} :
    (ofTextPairs l).content.canonical = (ofTextPairs m).content.canonical ↔ l = m := by
  rw [ofTextPairs, ofTextPairs, content_tuple_map, content_tuple_map]
  refine Payload.canonical_list_map_iff ?_ l m
  rintro ⟨a, b⟩ ⟨c, d⟩ h
  simpa using h

@[simp] lemma canonical_content_productType_iff {p q : ProductType} :
    p.toValue.content.canonical = q.toValue.content.canonical ↔ p = q := by
  cases p <;> cases q <;>
    simp [ProductType.toValue, ProductType.member, ProductType.text]

/-! ## Records -/

/-- Records of one type with the same fields agree up to the order of members exactly if the
payloads of their fields do. -/
lemma canonical_content_record_iff {type : String} {l m : List (String × Value)}
    (ordinary : type ≠ "Artifact") (same : Keyed.keys l = Keyed.keys m)
    (once : (Keyed.keys l).Nodup) :
    (record type l).content.canonical = (record type m).content.canonical ↔
      l.map (fun f => f.2.content.canonical) = m.map fun f => f.2.content.canonical := by
  rw [content_record ordinary once, content_record ordinary (same ▸ once),
    Payload.canonical_record_iff (by rw [Keyed.keys_map_value, Keyed.keys_map_value, same])
      (by rwa [Keyed.keys_map_value]), List.map_map, List.map_map]
  rfl

/-- The payloads of two mappings of texts agree up to order exactly if look-ups in them do. -/
lemma canonical_content_ofTextMapping_iff {l m : List (String × String)}
    (hl : (Keyed.keys l).Nodup) (hm : (Keyed.keys m).Nodup) :
    (ofTextMapping l).content.canonical = (ofTextMapping m).content.canonical ↔
      ∀ key, l.lookup key = m.lookup key := by
  rw [content_ofTextMapping hl, content_ofTextMapping hm,
    Payload.canonical_object_iff (by rwa [Keyed.keys_map_value]) (by rwa [Keyed.keys_map_value])]
  refine forall_congr' fun key => ?_
  have injective : Function.Injective fun s => (Payload.text s).canonical :=
    fun s t h => by simpa using h
  rw [Keyed.lookup_map_value, Keyed.lookup_map_value, Option.map_map, Option.map_map]
  exact (Option.map_injective injective).eq_iff

/-! ## Lengths that fit -/

lemma fits_record {type : String} {fields : List (String × Value)} (ordinary : type ≠ "Artifact")
    (once : (Keyed.keys fields).Nodup) (few : fields.length < 2 ^ 64)
    (names : ∀ f ∈ fields, (Text.Utf8.encode f.1.toList).length < 2 ^ 64)
    (each : ∀ f ∈ fields, f.2.content.Fits) : (record type fields).content.Fits := by
  rw [content_record ordinary once]
  refine .object (by rwa [List.length_map]) ?_ ?_
  · intro m hm
    obtain ⟨f, hf, rfl⟩ := List.mem_map.mp hm
    exact names f hf
  · intro m hm
    obtain ⟨f, hf, rfl⟩ := List.mem_map.mp hm
    exact each f hf

/-! ## No floating point numbers -/

@[simp] lemma floatFree_productType (p : ProductType) : p.toValue.content.FloatFree :=
  .text p.text

@[simp] lemma floatFree_ofText? (s : Option String) : (ofText? s).content.FloatFree := by
  cases s with
  | none => exact .null
  | some s => exact .text s

@[simp] lemma floatFree_ofArtifact? (a : Option Artifact) :
    (ofArtifact? a).content.FloatFree := by
  cases a with
  | none => exact .null
  | some a => exact Payload.floatFree_ofArtifact a

@[simp] lemma floatFree_ofTexts (l : List String) : (ofTexts l).content.FloatFree := by
  rw [ofTexts, content_tuple_map]
  exact Payload.floatFree_list_map fun s _ => .text s

@[simp] lemma floatFree_ofArtifacts (l : List Artifact) : (ofArtifacts l).content.FloatFree := by
  rw [ofArtifacts, content_tuple_map]
  exact Payload.floatFree_list_map fun a _ => Payload.floatFree_ofArtifact a

@[simp] lemma floatFree_ofTextPairs (l : List (String × String)) :
    (ofTextPairs l).content.FloatFree := by
  rw [ofTextPairs, content_tuple_map]
  refine Payload.floatFree_list_map fun p _ => ?_
  rw [content_tuple]
  refine .list ?_
  simp

lemma floatFree_ofTextMapping {entries : List (String × String)}
    (once : (Keyed.keys entries).Nodup) : (ofTextMapping entries).content.FloatFree := by
  rw [content_ofTextMapping once]
  refine .object fun m hm => ?_
  obtain ⟨e, -, rfl⟩ := List.mem_map.mp hm
  exact .text e.2

lemma floatFree_record {type : String} {fields : List (String × Value)}
    (ordinary : type ≠ "Artifact") (once : (Keyed.keys fields).Nodup)
    (each : ∀ f ∈ fields, f.2.content.FloatFree) : (record type fields).content.FloatFree := by
  rw [content_record ordinary once]
  refine .object fun m hm => ?_
  obtain ⟨f, hf, rfl⟩ := List.mem_map.mp hm
  exact each f hf

/-! ## Texts as keys -/

/-- The keys of all mappings in a value are texts, and no problem is among its parts. -/
inductive TextKeyed : Value → Prop where
  | null : TextKeyed null
  | bool (b : Bool) : TextKeyed (bool b)
  | int (i : Int) : TextKeyed (int i)
  | float (x : Binary64) : TextKeyed (float x)
  | text (s : String) : TextKeyed (text s)
  | bytes (bs : List UInt8) : TextKeyed (bytes bs)
  | artifact (a : Artifact) : TextKeyed (artifact a)
  | artifacts (s : ArtifactSet) : TextKeyed (artifacts s)
  | enumerated (e : Enumerated) : TextKeyed (enumerated e)
  | list {items : List Value} (each : ∀ v ∈ items, TextKeyed v) : TextKeyed (list items)
  | tuple {items : List Value} (each : ∀ v ∈ items, TextKeyed v) : TextKeyed (tuple items)
  | mapping (readOnly : Bool) {entries : List (Value × Value)}
      (keys : ∀ e ∈ entries, ∃ s, e.1 = Value.text s) (each : ∀ e ∈ entries, TextKeyed e.2) :
      TextKeyed (mapping readOnly entries)
  | record (type : String) {fields : List (String × Value)} (each : ∀ f ∈ fields, TextKeyed f.2) :
      TextKeyed (record type fields)

namespace TextKeyed

attribute [simp] null bool text artifact artifacts enumerated

/-- Texts as keys can always be written. -/
lemma not_keyOverlong {v : Value} (h : v.TextKeyed) : ¬ v.KeyOverlong := by
  induction h with
  | list _ ih =>
    rw [keyOverlong_list_iff]
    rintro ⟨v, mem, long⟩
    exact ih v mem long
  | tuple _ ih =>
    rw [keyOverlong_tuple_iff]
    rintro ⟨v, mem, long⟩
    exact ih v mem long
  | mapping readOnly keys _ ih =>
    rw [keyOverlong_mapping_iff]
    rintro ⟨e, mem, long | long⟩
    · obtain ⟨s, key⟩ := keys e mem
      rw [key] at long
      exact not_plainOverlong_text s long
    · exact ih e mem long
  | record type _ ih =>
    rw [keyOverlong_record_iff]
    rintro ⟨f, mem, long⟩
    exact ih f mem long
  | _ => nofun

/-- No problem is met where there is none among the parts. -/
lemma problemType?_content {v : Value} (h : v.TextKeyed) : Cbor.problemType? v.content = none := by
  induction h with
  | null | bool | int | float | text | bytes | enumerated => rfl
  | artifact a => exact Payload.problemType?_ofArtifact a
  | artifacts s => exact Payload.problemType?_ofArtifacts s
  | list _ ih | tuple _ ih =>
    rw [content, contents_eq_map, Cbor.problemType?_list_eq_none_iff]
    exact List.forall_mem_map.mpr ih
  | mapping readOnly _ _ ih =>
    rw [content_mapping, Cbor.problemType?_object_eq_none_iff]
    intro m hm
    obtain ⟨e, he, rfl⟩ := List.mem_map.mp (Keyed.mem_of_mem_ofList hm)
    exact ih e he
  | record type _ ih =>
    rw [content, fieldContents_eq_map, Cbor.problemType?_object_eq_none_iff]
    intro m hm
    obtain ⟨g, hg, same⟩ := Payload.exists_of_mem_recordMembers (Keyed.mem_of_mem_ofList hm)
    obtain ⟨f, hf, rfl⟩ := List.mem_map.mp hg
    rw [same]
    exact ih f hf

end TextKeyed

@[simp] lemma textKeyed_productType (p : ProductType) : p.toValue.TextKeyed := .enumerated _

@[simp] lemma textKeyed_ofText? (s : Option String) : (ofText? s).TextKeyed := by
  cases s with
  | none => exact .null
  | some s => exact .text s

@[simp] lemma textKeyed_ofArtifact? (a : Option Artifact) : (ofArtifact? a).TextKeyed := by
  cases a with
  | none => exact .null
  | some a => exact .artifact a

@[simp] lemma textKeyed_ofTexts (l : List String) : (ofTexts l).TextKeyed :=
  .tuple (List.forall_mem_map.mpr fun s _ => .text s)

@[simp] lemma textKeyed_ofArtifacts (l : List Artifact) : (ofArtifacts l).TextKeyed :=
  .tuple (List.forall_mem_map.mpr fun a _ => .artifact a)

@[simp] lemma textKeyed_ofTextPairs (l : List (String × String)) : (ofTextPairs l).TextKeyed :=
  .tuple (List.forall_mem_map.mpr fun p _ => .tuple (by simp))

@[simp] lemma textKeyed_ofTextMapping (entries : List (String × String)) :
    (ofTextMapping entries).TextKeyed :=
  .mapping true (List.forall_mem_map.mpr fun e _ => ⟨e.1, rfl⟩)
    (List.forall_mem_map.mpr fun e _ => .text e.2)

end Value

end TargetAssembly
