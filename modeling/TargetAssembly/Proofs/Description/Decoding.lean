import Mathlib
import TargetAssembly.Description
import TargetAssembly.Proofs.Cbor.RoundTrip

/-!
# Reading a description back

From the bytes of a description its payload is read back, up to the order in which objects list
their members, and whatever bytes follow are left.  `decode_bytes` says this of every description
whose payload is without floating point numbers and fits, and where the form of whole numbers
changes.
-/

namespace TargetAssembly

/-!
## Payloads that are alike

Two payloads are alike if they agree up to the order in which objects list their members, at any
depth.  `Alike` says so member by member, without a look at the bytes.  What `decode` reads from the
bytes of a payload is alike to it.  Whole numbers that no head holds, and only those, are written as
byte strings under a tag, one tag for each sign.
-/

namespace Payload

/-- Two payloads agree up to the order of the members of objects: the members of one object can be
put in such an order that the names are those of the other and the values are alike. -/
inductive Alike : Payload → Payload → Prop where
  | null : Alike null null
  | bool (b : Bool) : Alike (bool b) (bool b)
  | int (i : Int) : Alike (int i) (int i)
  | float (x : Binary64) : Alike (float x) (float x)
  | text (s : String) : Alike (text s) (text s)
  | bytes (bs : List UInt8) : Alike (bytes bs) (bytes bs)
  | list {l m : List Payload} (items : List.Forall₂ Alike l m) : Alike (list l) (list m)
  | object {l k m : List (String × Payload)} (order : l.Perm k)
      (names : Keyed.keys k = Keyed.keys m)
      (values : List.Forall₂ Alike (k.map Prod.snd) (m.map Prod.snd)) :
      Alike (object l) (object m)
  | problem (occurrence : Nat) (kind : ProblemKind) (message hint : Value)
      (context : List (Value × Value)) :
      Alike (problem occurrence kind message hint context)
        (problem occurrence kind message hint context)

/-- Putting members in order changes nothing else. -/
lemma alike_canonical (p : Payload) : Alike p.canonical p := by
  induction p using induction_parts with
  | null => exact .null
  | bool b => exact .bool b
  | int i => exact .int i
  | float x => exact .float x
  | text s => exact .text s
  | bytes bs => exact .bytes bs
  | list items ih =>
    rw [canonical_list]
    refine .list ?_
    rw [List.forall₂_map_left_iff, List.forall₂_same]
    exact ih
  | object members ih =>
    rw [canonical_object]
    refine .object (sortByName_perm _) (Keyed.keys_map_value canonical members) ?_
    rw [List.map_map, List.forall₂_map_left_iff, List.forall₂_map_right_iff, List.forall₂_same]
    exact ih
  | problem occurrence kind message hint context =>
    exact .problem occurrence kind message hint context

end Payload

namespace Cbor

/-- An encoded payload is read back up to the order of members, and the bytes that follow it are
left. -/
lemma decode_encode_alike {p : Payload} (fits : p.Fits) (floatFree : p.FloatFree)
    (rest : List UInt8) : ∃ q, decode (encode p ++ rest) = some (q, rest) ∧ q.Alike p :=
  ⟨p.canonical, decode_encode_append fits floatFree rest, p.alike_canonical⟩

/-! ### Whole numbers that no head holds -/

lemma head_eq_cons {major : Nat} (h : major < 8) (n : Nat) :
    ∃ b bs, head major n = b :: bs ∧ b.toNat / 32 = major := by
  rw [head]
  split_ifs
  all_goals
    refine ⟨_, _, rfl, ?_⟩
    rw [toNat_initialByte h (by omega)]
    omega

/-- A number is written under a tag exactly if it does not fit a head, and then the byte string
under the tag holds it. -/
lemma ofMagnitude_tagged_iff {major tag n : Nat} (hm : major < 6) (ht : tag < 24) :
    (∃ bs, ofMagnitude major tag n = initialByte 6 tag :: ofBytes bs ∧ ofBigEndian bs = n) ↔
      2 ^ 64 ≤ n := by
  rw [ofMagnitude]
  split_ifs with small
  · -- the first byte tells the major type, and no number has that of tags
    refine iff_of_false ?_ (by omega)
    rintro ⟨bs, written, -⟩
    obtain ⟨b, bs', hb, type⟩ := head_eq_cons (show major < 8 by omega) n
    rw [hb] at written
    have tagged := toNat_initialByte (show 6 < 8 by omega) (show tag < 32 by omega)
    rw [(List.cons.inj written).1, tagged] at type
    omega
  · have tagged : head 6 tag = [initialByte 6 tag] := by rw [head, if_pos ht]
    rw [tagged, List.singleton_append]
    exact iff_of_true ⟨_, rfl, ofBigEndian_bigEndian _ (magnitude_lt n)⟩ (by omega)

/-- Whole numbers from `2 ^ 64` on, and no others, are written under the tag 2. -/
lemma encode_int_tag_two_iff (i : Int) :
    (∃ bs, encode (.int i) = initialByte 6 2 :: ofBytes bs ∧ (ofBigEndian bs : Int) = i) ↔
      2 ^ 64 ≤ i := by
  cases i with
  | ofNat n =>
    simp only [encode, ofInt, Int.ofNat_eq_natCast, Int.natCast_inj]
    rw [ofMagnitude_tagged_iff (by omega) (by omega)]
    omega
  | negSucc n =>
    refine iff_of_false ?_ (by omega)
    rintro ⟨bs, -, value⟩
    omega

/-- Whole numbers below `-2 ^ 64`, and no others, are written under the tag 3. -/
lemma encode_int_tag_three_iff (i : Int) :
    (∃ bs, encode (.int i) = initialByte 6 3 :: ofBytes bs ∧ -1 - (ofBigEndian bs : Int) = i) ↔
      i < -2 ^ 64 := by
  cases i with
  | ofNat n =>
    have natural : Int.ofNat n = n := rfl
    refine iff_of_false ?_ (by omega)
    rintro ⟨bs, -, value⟩
    omega
  | negSucc n =>
    have value : ∀ m : Nat, -1 - (m : Int) = Int.negSucc n ↔ m = n := by omega
    simp only [encode, ofInt, value]
    rw [ofMagnitude_tagged_iff (by omega) (by omega)]
    omega

end Cbor

end TargetAssembly

namespace TargetAssembly.Description

/-- A description whose payload is without floating point numbers and fits has bytes, and they are
read back as the payload, whatever follows them.  Whole numbers from `2 ^ 64` on are among them as
byte strings under the tag 2, those below `-2 ^ 64` as byte strings under the tag 3. -/
theorem decode_bytes {d : Description} {p : Payload} (built : d.payload = .ok p) (fits : p.Fits)
    (floatFree : p.FloatFree) :
    (∃ bs, d.bytes = .ok bs ∧
        ∀ rest, ∃ q, Cbor.decode (bs ++ rest) = some (q, rest) ∧ q.Alike p) ∧
      ∀ i : Int,
        ((∃ bs, Cbor.encode (.int i) = 0xc2 :: Cbor.ofBytes bs ∧
            (Cbor.ofBigEndian bs : Int) = i) ↔ 2 ^ 64 ≤ i) ∧
          ((∃ bs, Cbor.encode (.int i) = 0xc3 :: Cbor.ofBytes bs ∧
            -1 - (Cbor.ofBigEndian bs : Int) = i) ↔ i < -2 ^ 64) := by
  have written : d.bytes = .ok (Cbor.encode p) := by
    rw [bytes, built]
    exact Cbor.write_of_fits fits
  refine ⟨⟨_, written, fun rest => ?_⟩, fun i => ⟨?_, ?_⟩⟩
  · exact Cbor.decode_encode_alike fits floatFree rest
  · exact Cbor.encode_int_tag_two_iff i
  · exact Cbor.encode_int_tag_three_iff i

/-- A value with numbers on both sides of both boundaries, and with a mapping whose keys are not in
the order in which they are written. -/
def boundaryValue : Value :=
  .tuple [.int 0xffffffffffffffff, .int 0x10000000000000000, .int (-0x10000000000000000),
    .int (-0x10000000000000001),
    .mapping false [(.text "name", .bytes [0xff]), (.text "id", .null)]]

/-- The payload of this value. -/
def boundaryPayload : Payload :=
  .list [.int 0xffffffffffffffff, .int 0x10000000000000000, .int (-0x10000000000000000),
    .int (-0x10000000000000001), .object [("name", .bytes [0xff]), ("id", .null)]]

/-- A description that holds this value. -/
def boundary : Description :=
  { label := "//app:tests", filesToBuild := .empty, extras := [boundaryValue] }

/-- What its payload holds. -/
def boundaryContent : Payload :=
  .object [
    ("label", .text "//app:tests"), ("files_to_build", .list []), ("capabilities", .object []),
    ("extras", .list [.object [("type", .text "tuple"), ("value", boundaryPayload)]]),
    ("executable", .null)]

lemma payload_boundary : boundary.payload = .ok boundaryContent := by
  have supplied : boundary.sortedCapabilities = [] := List.mergeSort_nil
  rw [payload, supplied]
  rfl

lemma fits_boundary : boundaryContent.Fits := by
  have mapping : (Payload.object [("name", .bytes [0xff]), ("id", .null)]).Fits := by
    refine .object (by decide) (by decide) ?_
    simp only [List.forall_mem_cons]
    exact ⟨.bytes (by decide), .null, nofun⟩
  have value : boundaryPayload.Fits := by
    refine .list (by decide) ?_
    simp only [List.forall_mem_cons]
    exact ⟨.int (by decide), .int (by decide), .int (by decide), .int (by decide), mapping, nofun⟩
  have extra : (Payload.object [("type", .text "tuple"), ("value", boundaryPayload)]).Fits := by
    refine .object (by decide) (by decide) ?_
    simp only [List.forall_mem_cons]
    exact ⟨.text (by decide), value, nofun⟩
  refine .object (by decide) (by decide) ?_
  simp only [List.forall_mem_cons]
  exact ⟨.text (by decide), .list (by decide) nofun, .object (by decide) nofun nofun,
    .list (by decide) (by simpa using extra), .null, nofun⟩

lemma floatFree_boundary : boundaryContent.FloatFree := by
  have mapping : (Payload.object [("name", .bytes [0xff]), ("id", .null)]).FloatFree :=
    .object (by simp only [List.forall_mem_cons]; exact ⟨.bytes _, .null, nofun⟩)
  have value : boundaryPayload.FloatFree := by
    refine .list ?_
    simp only [List.forall_mem_cons]
    exact ⟨.int _, .int _, .int _, .int _, mapping, nofun⟩
  have extra :
      (Payload.object [("type", .text "tuple"), ("value", boundaryPayload)]).FloatFree := by
    refine .object ?_
    simp only [List.forall_mem_cons]
    exact ⟨.text _, value, nofun⟩
  refine .object ?_
  simp only [List.forall_mem_cons]
  exact ⟨.text _, .list nofun, .object nofun, .list (by simpa using extra), .null, nofun⟩

/-- The numbers of this description are read back in front of a byte that is none of theirs. -/
theorem decode_boundary :
    boundary.payload = .ok boundaryContent ∧ boundaryContent.Fits ∧ boundaryContent.FloatFree ∧
      ∃ bs, boundary.bytes = .ok bs ∧
        ∃ p, Cbor.decode (bs ++ [0xff]) = some (p, [0xff]) ∧ p.Alike boundaryContent := by
  obtain ⟨bs, written, read⟩ := (decode_bytes payload_boundary fits_boundary floatFree_boundary).1
  exact ⟨payload_boundary, fits_boundary, floatFree_boundary, bs, written, read [0xff]⟩

end TargetAssembly.Description
