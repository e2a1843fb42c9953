import TargetAssembly.Proofs.Value.Payload

/-!
# Making plain data is a projection

Plain data can be taken for a value again: lists for lists that can change, objects for mappings of
texts.  To make plain data of such a value changes nothing if no object in it binds a name twice,
and whatever is made of a value is of that kind.  So whatever is to be merged, in particular keys of
different types that have one text, is merged the first time.  Nothing is made of a value exactly if
a key in it has no text.
-/

namespace TargetAssembly

/-! ## Plain data as values -/

namespace Payload

/-- No object in a payload binds a name twice, at any depth. -/
inductive BindsOnce : Payload → Prop where
  | null : BindsOnce null
  | bool (b : Bool) : BindsOnce (bool b)
  | int (i : Int) : BindsOnce (int i)
  | float (x : Binary64) : BindsOnce (float x)
  | text (s : String) : BindsOnce (text s)
  | bytes (bs : List UInt8) : BindsOnce (bytes bs)
  | list {items : List Payload} (each : ∀ p ∈ items, BindsOnce p) : BindsOnce (list items)
  | object {members : List (String × Payload)} (once : (Keyed.keys members).Nodup)
      (each : ∀ m ∈ members, BindsOnce m.2) : BindsOnce (object members)
  | problem (occurrence : Nat) (kind : ProblemKind) (message hint : Value)
      (context : List (Value × Value)) : BindsOnce (problem occurrence kind message hint context)

mutual

/-- A payload as the value that it is. -/
def toValue : Payload → Value
  | null => .null
  | bool b => .bool b
  | int i => .int i
  | float x => .float x
  | text s => .text s
  | bytes bs => .bytes bs
  | list items => .list (toValues items)
  | object members => .ofNamed (toNamed members)
  | problem occurrence kind message hint context => .problem occurrence kind message hint context

/-- The items of a list as values. -/
def toValues : List Payload → List Value
  | [] => []
  | p :: rest => p.toValue :: toValues rest

/-- The members of an object as named values. -/
def toNamed : List (String × Payload) → List (String × Value)
  | [] => []
  | (name, p) :: rest => (name, p.toValue) :: toNamed rest

end

lemma toValues_eq_map (items : List Payload) : toValues items = items.map toValue := by
  induction items with
  | nil => rfl
  | cons p items ih => exact congrArg (p.toValue :: ·) ih

lemma toNamed_eq_map (members : List (String × Payload)) :
    toNamed members = members.map fun m => (m.1, m.2.toValue) := by
  induction members with
  | nil => rfl
  | cons m members ih => exact congrArg ((m.1, m.2.toValue) :: ·) ih

/-- Plain data that binds every name once is what it holds as a value. -/
lemma content_toValue {p : Payload} (once : p.BindsOnce) : p.toValue.content = p := by
  induction once with
  | null | bool | int | float | text | bytes | problem => rfl
  | @list items _ ih =>
    have same : items.map (Value.content ∘ toValue) = items :=
      (List.map_congr_left ih).trans (List.map_id items)
    rw [toValue, Value.content_list, toValues_eq_map, List.map_map, same]
  | @object members once _ ih =>
    have kept : ∀ m ∈ members, (m.1, m.2.toValue.content) = m := fun m hm => Prod.ext rfl (ih m hm)
    have same : members.map (fun m => (m.1, m.2.toValue.content)) = members :=
      (List.map_congr_left kept).trans (List.map_id members)
    have once' : (((members.map fun m => (m.1, m.2.toValue)).map fun e =>
        (Value.text e.1, e.2)).map fun e => e.1.keyName).Nodup := by
      rw [List.map_map, List.map_map]
      exact once
    rw [toValue, toNamed_eq_map, Value.ofNamed, Value.content_mapping_of_nodup false once',
      List.map_map, List.map_map]
    exact congrArg object same

/-- The keys of plain data are texts. -/
lemma not_keyOverlong_toValue (p : Payload) : ¬ p.toValue.KeyOverlong := by
  induction p using induction_parts with
  | null | bool | int | float | text | bytes | problem => nofun
  | list items ih =>
    rw [toValue, Value.keyOverlong_list_iff, toValues_eq_map]
    simpa using ih
  | object members ih =>
    rw [toValue, Value.ofNamed, Value.keyOverlong_mapping_iff, toNamed_eq_map, List.map_map]
    intro long
    obtain ⟨e, mem, long⟩ := long
    obtain ⟨m, hm, rfl⟩ := List.mem_map.mp mem
    exact long.elim (Value.not_plainOverlong_text m.1) (ih m hm)

/-- Plain data that binds every name once is what is made of it as a value. -/
lemma payload_toValue {p : Payload} (once : p.BindsOnce) : p.toValue.payload = .ok p := by
  rw [p.toValue.payload_limited.ok p.not_keyOverlong_toValue, content_toValue once]

/-! ## Objects that bind every name once -/

/-- An object that is built from pairs binds every name once, whatever the names of the pairs. -/
lemma bindsOnce_object_ofList {pairs : List (String × Payload)}
    (each : ∀ m ∈ pairs, m.2.BindsOnce) : (object (Keyed.ofList pairs)).BindsOnce :=
  .object (Keyed.nodup_keys_ofList pairs) fun m hm => each m (Keyed.mem_of_mem_ofList hm)

lemma bindsOnce_ofArtifact (a : Artifact) : (ofArtifact a).BindsOnce := by
  refine .object (by simp [Keyed.keys]) ?_
  simp only [List.forall_mem_cons]
  exact ⟨.text a.root, .text a.path, fun _ h => absurd h List.not_mem_nil⟩

end Payload

/-! ## What is made of a value -/

namespace Value

/-- What is made of a value binds every name once, whatever the keys of its mappings. -/
lemma bindsOnce_content (v : Value) : v.content.BindsOnce := by
  induction v using induction_parts with
  | null => exact .null
  | bool b => exact .bool b
  | int i => exact .int i
  | float x => exact .float x
  | text s => exact .text s
  | bytes bs => exact .bytes bs
  | artifact a => exact Payload.bindsOnce_ofArtifact a
  | artifacts s =>
    refine .list fun p hp => ?_
    obtain ⟨a, -, rfl⟩ := List.mem_map.mp hp
    exact Payload.bindsOnce_ofArtifact a
  | enumerated e => exact .text e.value
  | list items ih =>
    rw [content_list]
    exact .list (List.forall_mem_map.mpr ih)
  | tuple items ih =>
    rw [content_tuple]
    exact .list (List.forall_mem_map.mpr ih)
  | mapping readOnly entries ih =>
    rw [content_mapping]
    refine Payload.bindsOnce_object_ofList fun m hm => ?_
    obtain ⟨e, he, rfl⟩ := List.mem_map.mp hm
    exact (ih e he).2
  | record type fields ih =>
    rw [content, fieldContents_eq_map]
    refine Payload.bindsOnce_object_ofList fun m hm => ?_
    obtain ⟨f, hf, same⟩ := Payload.exists_of_mem_recordMembers hm
    obtain ⟨g, hg, rfl⟩ := List.mem_map.mp hf
    rw [same]
    exact ih g hg
  | problem occurrence kind message hint context =>
    exact .problem occurrence kind message hint context

/-- Of the entries of a mapping whose keys have one text the value of the last is bound, at the
place of the first. -/
theorem payload_mapping_merged {readOnly : Bool} {entries : List (Value × Value)} {p : Payload}
    (made : (mapping readOnly entries).payload = .ok p) :
    ∃ members, p = .object members ∧
      FirstSeen (entries.filterMap fun e => e.1.plain.toOption) (Keyed.keys members) ∧
      ∀ before k v after, entries = before ++ (k, v) :: after →
        (∀ e ∈ after, e.1.plain ≠ k.plain) →
        ∃ name q, k.plain = .ok name ∧ v.payload = .ok q ∧ members.lookup name = some q := by
  obtain ⟨short, rfl⟩ := payload_eq_ok_iff.mp made
  rw [keyOverlong_mapping_iff] at short
  have plain (e : Value × Value) (he : e ∈ entries) : e.1.plain = .ok e.1.keyName :=
    e.1.plain_limited.ok fun long => short ⟨e, he, .inl long⟩
  refine ⟨_, content_mapping readOnly entries, ?_, ?_⟩
  · have keys : Keyed.keys (entries.map fun e => (e.1.keyName, e.2.content)) =
        entries.map fun e => e.1.keyName := by
      rw [Keyed.keys, List.map_map]
      rfl
    have written : ¬ ∃ e ∈ entries, e.1.PlainOverlong := by
      rintro ⟨e, he, long⟩
      exact short ⟨e, he, .inl long⟩
    rw [filterMap_plain written, Keyed.keys_ofList, keys]
    exact firstSeen_eraseDups _
  · rintro before k v after rfl last
    have mem : (k, v) ∈ before ++ (k, v) :: after := by simp
    refine ⟨k.keyName, v.content, plain (k, v) mem,
      v.payload_limited.ok fun long => short ⟨(k, v), mem, .inr long⟩, ?_⟩
    rw [List.map_append, List.map_cons]
    refine Keyed.lookup_ofList_last v.content ?_
    rw [Keyed.keys, List.map_map, List.mem_map]
    rintro ⟨e, he, same⟩
    refine last e he ?_
    rw [plain (k, v) mem, plain e (by simp [he]), ← same]
    rfl

/-- Two pairs of keys have one text each. -/
example :
    (mapping false [(null, tuple [int 1]), (int 7, bytes [0xff]), (text "None", bool true),
        (text "7", list [])]).payload =
      .ok (.object [("None", .bool true), ("7", .list [])]) := by
  rfl

/-! ## Main result -/

/-- Nothing is made of a value exactly if a key in it has no text.  What is made of a value binds
every name once and, taken for a value again, is left as it is.  Plain data is left as it is exactly
if it binds every name once. -/
theorem payload_projection (v : Value) :
    (∀ m, v.payload = .error m ↔ m = .tooManyDigits ∧ v.KeyOverlong) ∧
      (∀ p, v.payload = .ok p → p.BindsOnce ∧ p.toValue.payload = .ok p) ∧
      ∀ p : Payload, p.toValue.payload = .ok p ↔ p.BindsOnce := by
  have made {v : Value} {p : Payload} (h : v.payload = .ok p) : p.BindsOnce := by
    obtain ⟨-, rfl⟩ := payload_eq_ok_iff.mp h
    exact bindsOnce_content v
  refine ⟨fun m => payload_eq_error_iff, fun p h => ?_, fun p => ⟨made, Payload.payload_toValue⟩⟩
  exact ⟨made h, Payload.payload_toValue (made h)⟩

/-- Nothing is made of a mapping with a key that is too long to be written. -/
theorem payload_not_always_made :
    (mapping false [(int leastOverlong, null)]).payload = .error .tooManyDigits ∧
      ¬ ∀ v : Value, ∃ p, v.payload = .ok p ∧ p.BindsOnce ∧ p.toValue.payload = .ok p := by
  have key : (int leastOverlong).PlainOverlong := .quoted nofun overlong_leastOverlong
  have long : (mapping false [(int leastOverlong, null)]).KeyOverlong :=
    .key List.mem_cons_self key
  have nothing := (payload_limited _).error long
  refine ⟨nothing, fun always => ?_⟩
  obtain ⟨p, made, -⟩ := always (mapping false [(int leastOverlong, null)])
  rw [nothing] at made
  cases made

end Value

end TargetAssembly
