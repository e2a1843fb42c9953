import Mathlib
import TargetAssembly.Cbor
import TargetAssembly.Proofs.Cbor.Canonical
import TargetAssembly.Proofs.Text.Utf8

/-!
# Payloads survive CBOR

The decoder gives back what was encoded, with the members of objects in canonical order, and leaves
the bytes that follow.  Hence two payloads have the same bytes exactly if they agree up to the order
of members.  Both hold for payloads without floating point numbers whose lengths all fit a head.
-/

namespace TargetAssembly.Cbor

/-!
## A decoder of CBOR

`decode` reads one payload from the front of some bytes and returns what follows it.  Whatever it is
given ends: a length is the number of items that are read, and `decodeNested` bounds how deeply they
are nested, for which the number of bytes is enough.  Floating point numbers are not read.

The lemmas say that each reader undoes its writer in front of any bytes.
-/

variable {α : Type}

/-! ### Readers -/

/-- The number that bytes hold, the most significant first. -/
def ofBigEndian (bs : List UInt8) : Nat := bs.foldl (fun n b => n * 256 + b.toNat) 0

/-- Read a given count of bytes. -/
def takeBytes (n : Nat) (bs : List UInt8) : Option (List UInt8 × List UInt8) :=
  if n ≤ bs.length then some (bs.take n, bs.drop n) else none

/-- In how many bytes the number of a head follows its first byte. -/
def argumentWidth : (info : Nat) → Option Nat
  | 24 => some 1
  | 25 => some 2
  | 26 => some 4
  | 27 => some 8
  | _ => none

/-- Read a head: its major type and its number. -/
def readHead : List UInt8 → Option ((Nat × Nat) × List UInt8)
  | [] => none
  | b :: rest =>
    if b.toNat % 32 < 24 then some ((b.toNat / 32, b.toNat % 32), rest)
    else do
      let (bytes, rest) ← takeBytes (← argumentWidth (b.toNat % 32)) rest
      return ((b.toNat / 32, ofBigEndian bytes), rest)

/-- Read a byte string. -/
def readBytes (bs : List UInt8) : Option (List UInt8 × List UInt8) := do
  let ((2, n), rest) ← readHead bs | none
  takeBytes n rest

/-- Read a text. -/
def readText (bs : List UInt8) : Option (String × List UInt8) := do
  let ((3, n), rest) ← readHead bs | none
  let (bytes, rest) ← takeBytes n rest
  let cs ← (Text.Utf8.decode bytes).toOption
  return (String.ofList cs, rest)

/-- Read a given count of items. -/
def readMany (read : List UInt8 → Option (α × List UInt8)) :
    Nat → List UInt8 → Option (List α × List UInt8)
  | 0, bs => some ([], bs)
  | n + 1, bs => do
    let (item, bs) ← read bs
    let (items, bs) ← readMany read n bs
    return (item :: items, bs)

/-- Read a member of an object: its name and its value. -/
def readMember (read : List UInt8 → Option (α × List UInt8)) (bs : List UInt8) :
    Option ((String × α) × List UInt8) := do
  let (name, bs) ← readText bs
  let (value, bs) ← read bs
  return ((name, value), bs)

/-- Read a payload in which lists and objects are nested less than `depth` deep. -/
def decodeNested : (depth : Nat) → List UInt8 → Option (Payload × List UInt8)
  | 0, _ => none
  | depth + 1, bs => do
    let ((major, n), rest) ← readHead bs
    match major, n with
    | 0, n => return (.int (.ofNat n), rest)
    | 1, n => return (.int (.negSucc n), rest)
    | 2, _ => (readBytes bs).map fun r => (.bytes r.1, r.2)
    | 3, _ => (readText bs).map fun r => (.text r.1, r.2)
    | 4, n => (readMany (decodeNested depth) n rest).map fun r => (.list r.1, r.2)
    | 5, n =>
      (readMany (readMember (decodeNested depth)) n rest).map fun r => (.object r.1, r.2)
    | 6, 2 => (readBytes rest).map fun r => (.int (.ofNat (ofBigEndian r.1)), r.2)
    | 6, 3 => (readBytes rest).map fun r => (.int (.negSucc (ofBigEndian r.1)), r.2)
    | 7, 20 => return (.bool false, rest)
    | 7, 21 => return (.bool true, rest)
    | 7, 22 => return (.null, rest)
    | _, _ => none

/-- Read a payload. -/
def decode (bs : List UInt8) : Option (Payload × List UInt8) := decodeNested bs.length bs

/-! ### Numbers and heads -/

lemma ofBigEndian_bigEndian (width : Nat) {n : Nat} (h : n < 256 ^ width) :
    ofBigEndian (bigEndian width n) = n := by
  induction width generalizing n with
  | zero =>
    have zero : n = 0 := by simpa using h
    rw [zero]
    rfl
  | succ width ih =>
    -- the last byte holds the remainder, those before it the quotient
    have upper : n / 256 < 256 ^ width := by
      rw [Nat.pow_succ] at h
      exact Nat.div_lt_of_lt_mul (by rwa [Nat.mul_comm])
    have low : (UInt8.ofNat (n % 256)).toNat = n % 256 := Text.Utf8.toNat_ofNat (by omega)
    rw [bigEndian, ofBigEndian, List.foldl_append, ← ofBigEndian, ih upper, List.foldl_cons,
      List.foldl_nil, low]
    omega

lemma takeBytes_append {n : Nat} {bs : List UInt8} (h : bs.length = n) (rest : List UInt8) :
    takeBytes n (bs ++ rest) = some (bs, rest) := by
  subst h
  rw [takeBytes, if_pos (by simp), List.take_left, List.drop_left]

lemma toNat_initialByte {major info : Nat} (hm : major < 8) (hi : info < 32) :
    (initialByte major info).toNat = major * 32 + info :=
  Text.Utf8.toNat_ofNat (by omega)

lemma readHead_long {major info width n : Nat} (hm : major < 8) (hi : info < 32) (h24 : 24 ≤ info)
    (hw : argumentWidth info = some width) (hn : n < 256 ^ width) (rest : List UInt8) :
    readHead (initialByte major info :: (bigEndian width n ++ rest)) = some ((major, n), rest) := by
  have hb := toNat_initialByte hm hi
  have type : (initialByte major info).toNat / 32 = major := by omega
  have further : (initialByte major info).toNat % 32 = info := by omega
  rw [readHead, type, further, if_neg (by omega), hw]
  simp only [Option.bind_eq_bind, Option.bind_some]
  rw [takeBytes_append (length_bigEndian width n)]
  simp only [Option.bind_some, ofBigEndian_bigEndian width hn]
  rfl

/-- A head is read as its major type and its number. -/
lemma readHead_head {major n : Nat} (hm : major < 8) (hn : n < 2 ^ 64) (rest : List UInt8) :
    readHead (head major n ++ rest) = some ((major, n), rest) := by
  rw [head]
  split_ifs with h1 h2 h3 h4
  · -- a small number stands in the first byte itself
    have hb := toNat_initialByte hm (show n < 32 by omega)
    have type : (initialByte major n).toNat / 32 = major := by omega
    have further : (initialByte major n).toNat % 32 = n := by omega
    rw [List.singleton_append, readHead, type, further, if_pos h1]
  · exact readHead_long hm (by omega) (by omega) rfl h2 rest
  · exact readHead_long hm (by omega) (by omega) rfl h3 rest
  · exact readHead_long hm (by omega) (by omega) rfl h4 rest
  · exact readHead_long hm (by omega) (by omega) rfl hn rest

/-! ### Strings and lists -/

lemma readBytes_ofBytes {bs : List UInt8} (h : bs.length < 2 ^ 64) (rest : List UInt8) :
    readBytes (ofBytes bs ++ rest) = some (bs, rest) := by
  rw [readBytes, ofBytes, List.append_assoc, readHead_head (by omega) h]
  exact takeBytes_append rfl rest

lemma readText_ofText {s : String} (h : (Text.Utf8.encode s.toList).length < 2 ^ 64)
    (rest : List UInt8) : readText (ofText s ++ rest) = some (s, rest) := by
  rw [readText, ofText, List.append_assoc, readHead_head (by omega) h]
  simp only [Option.bind_eq_bind, Option.bind_some]
  rw [takeBytes_append rfl]
  simp only [Option.bind_some, Text.Utf8.decode_encode]
  simp [Except.toOption]

/-- Items are read one after the other if each of them is. -/
lemma readMany_flatMap {β : Type} {write : β → List UInt8} {as : β → α}
    {read : List UInt8 → Option (α × List UInt8)} (items : List β)
    (h : ∀ b ∈ items, ∀ rest, read (write b ++ rest) = some (as b, rest)) (rest : List UInt8) :
    readMany read items.length (items.flatMap write ++ rest) = some (items.map as, rest) := by
  induction items with
  | nil => rfl
  | cons b items ih =>
    have later := ih fun c hc => h c (List.mem_cons_of_mem b hc)
    rw [List.length_cons, readMany, List.flatMap_cons, List.append_assoc,
      h b List.mem_cons_self]
    simp only [Option.bind_eq_bind, Option.bind_some, later]
    rfl

end TargetAssembly.Cbor

namespace TargetAssembly

/-- The number that a whole number is written as: itself, or how far it is below minus one. -/
def Cbor.magnitude : Int → Nat
  | .ofNat n => n
  | .negSucc n => n

namespace Payload

/-- All lengths in a payload are below `2 ^ 64`: those of texts and byte strings in bytes, those of
lists and objects in items, and those of the byte strings that great numbers are written as. -/
inductive Fits : Payload → Prop where
  | null : Fits null
  | bool (b : Bool) : Fits (bool b)
  | int {i : Int} (h : Cbor.leastWidth (Cbor.magnitude i) < 2 ^ 64) : Fits (int i)
  | float (x : Binary64) : Fits (float x)
  | text {s : String} (h : (Text.Utf8.encode s.toList).length < 2 ^ 64) : Fits (text s)
  | bytes {bs : List UInt8} (h : bs.length < 2 ^ 64) : Fits (bytes bs)
  | list {items : List Payload} (h : items.length < 2 ^ 64) (each : ∀ p ∈ items, Fits p) :
      Fits (list items)
  | object {members : List (String × Payload)} (h : members.length < 2 ^ 64)
      (names : ∀ m ∈ members, (Text.Utf8.encode m.1.toList).length < 2 ^ 64)
      (each : ∀ m ∈ members, Fits m.2) : Fits (object members)

/-- A payload without floating point numbers. -/
inductive FloatFree : Payload → Prop where
  | null : FloatFree null
  | bool (b : Bool) : FloatFree (bool b)
  | int (i : Int) : FloatFree (int i)
  | text (s : String) : FloatFree (text s)
  | bytes (bs : List UInt8) : FloatFree (bytes bs)
  | list {items : List Payload} (each : ∀ p ∈ items, FloatFree p) : FloatFree (list items)
  | object {members : List (String × Payload)} (each : ∀ m ∈ members, FloatFree m.2) :
      FloatFree (object members)

end Payload

namespace Cbor

open Payload (sortByName sortByName_perm)

/-- Where all lengths fit there is no problem, so there are bytes. -/
lemma problemType?_of_fits {p : Payload} (h : p.Fits) : problemType? p = none := by
  induction h with
  | null | bool | int | float | text | bytes => rfl
  | list _ _ ih => exact problemType?_list_eq_none_iff.mpr ih
  | object _ _ _ ih => exact problemType?_object_eq_none_iff.mpr ih

lemma write_of_fits {p : Payload} (h : p.Fits) : write p = .ok (encode p) := by
  rw [write, problemType?_of_fits h]

lemma head_length_pos (major n : Nat) : 0 < (head major n).length := by
  rw [head]
  split_ifs <;> simp

lemma length_head_append_pos (major n : Nat) (bs : List UInt8) :
    0 < (head major n ++ bs).length := by
  rw [List.length_append]
  exact Nat.add_pos_left (head_length_pos major n) _

lemma ofMagnitude_length_pos (major tag n : Nat) : 0 < (ofMagnitude major tag n).length := by
  rw [ofMagnitude]
  split_ifs
  · exact head_length_pos major n
  · exact length_head_append_pos 6 tag _

lemma encode_length_pos {p : Payload} (h : p.FloatFree) : 0 < (encode p).length := by
  cases h with
  | null | bool b => exact Nat.one_pos
  | int i => cases i <;> exact ofMagnitude_length_pos _ _ _
  | text s | bytes bs | list each | object each => exact length_head_append_pos _ _ _

/-- What stands in a list that is written in pieces is no longer than the whole. -/
lemma length_le_flatMap {α : Type} (write : α → List UInt8) {items : List α} {x : α}
    (h : x ∈ items) : (write x).length ≤ (items.flatMap write).length := by
  rw [List.flatMap_def]
  exact (List.sublist_flatten_of_mem (List.mem_map_of_mem h)).length_le

lemma magnitude_lt (n : Nat) : n < 256 ^ leastWidth n := by
  have wide : n.log2 + 1 ≤ 8 * leastWidth n := by
    rw [leastWidth]
    omega
  calc n < 2 ^ (n.log2 + 1) := Nat.lt_log2_self
    _ ≤ 2 ^ (8 * leastWidth n) := Nat.pow_le_pow_right (by omega) wide
    _ = 256 ^ leastWidth n := by rw [Nat.pow_mul]

/-- No payload is written as nothing, so a depth that is enough for one is not zero. -/
lemma exists_depth {p : Payload} (free : p.FloatFree) {depth : Nat}
    (short : (encode p).length ≤ depth) : ∃ d, depth = d + 1 :=
  Nat.exists_eq_add_one.mpr (Nat.lt_of_lt_of_le (encode_length_pos free) short)

/-! ## Numbers, lists and objects -/

/-- A number too great for a head is read back from the byte string that it is written as. -/
lemma readBytes_magnitude {n : Nat} (h : leastWidth n < 2 ^ 64) (rest : List UInt8) :
    (readBytes (ofBytes (bigEndian (leastWidth n) n) ++ rest)).map
        (fun r => (ofBigEndian r.1, r.2)) = some (n, rest) := by
  have short : (bigEndian (leastWidth n) n).length < 2 ^ 64 := by rwa [length_bigEndian]
  rw [readBytes_ofBytes short, Option.map_some, ofBigEndian_bigEndian _ (magnitude_lt n)]

lemma decodeNested_ofInt {i : Int} (h : leastWidth (magnitude i) < 2 ^ 64) (depth : Nat)
    (rest : List UInt8) : decodeNested (depth + 1) (ofInt i ++ rest) = some (.int i, rest) := by
  -- the two signs differ in their major types and their tags only
  cases i with
  | ofNat n =>
    rw [ofInt, ofMagnitude]
    split_ifs with small
    · rw [decodeNested, readHead_head (by omega) small]
      rfl
    · have wide := congrArg (Option.map fun r => (Payload.int (.ofNat r.1), r.2))
        (readBytes_magnitude h rest)
      rw [Option.map_map] at wide
      rw [List.append_assoc, decodeNested, readHead_head (by omega) (by omega)]
      exact wide
  | negSucc n =>
    rw [ofInt, ofMagnitude]
    split_ifs with small
    · rw [decodeNested, readHead_head (by omega) small]
      rfl
    · have wide := congrArg (Option.map fun r => (Payload.int (.negSucc r.1), r.2))
        (readBytes_magnitude h rest)
      rw [Option.map_map] at wide
      rw [List.append_assoc, decodeNested, readHead_head (by omega) (by omega)]
      exact wide

lemma decodeNested_list {items : List Payload} {depth : Nat} (h : items.length < 2 ^ 64)
    (each : ∀ p ∈ items, ∀ rest,
      decodeNested depth (encode p ++ rest) = some (p.canonical, rest))
    (rest : List UInt8) :
    decodeNested (depth + 1) (encode (.list items) ++ rest) =
      some ((Payload.list items).canonical, rest) := by
  rw [encode, encodeItems_eq_flatMap, List.append_assoc, decodeNested, readHead_head (by omega) h]
  simp only [Option.bind_eq_bind, Option.bind_some]
  rw [readMany_flatMap items each, Payload.canonical_list]
  rfl

lemma decodeNested_object {members : List (String × Payload)} {depth : Nat}
    (h : members.length < 2 ^ 64)
    (names : ∀ m ∈ members, (Text.Utf8.encode m.1.toList).length < 2 ^ 64)
    (each : ∀ m ∈ members, ∀ rest,
      decodeNested depth (encode m.2 ++ rest) = some (m.2.canonical, rest))
    (rest : List UInt8) :
    decodeNested (depth + 1) (encode (.object members) ++ rest) =
      some ((Payload.object members).canonical, rest) := by
  have read : ∀ m ∈ sortByName members, ∀ rest,
      readMember (decodeNested depth) (ofText m.1 ++ encode m.2 ++ rest) =
        some ((m.1, m.2.canonical), rest) := by
    intro m hm rest
    have mem : m ∈ members := (sortByName_perm members).mem_iff.mp hm
    rw [readMember, List.append_assoc, readText_ofText (names m mem)]
    simp only [Option.bind_eq_bind, Option.bind_some]
    rw [each m mem rest]
    rfl
  rw [encode_object, List.append_assoc, decodeNested, readHead_head (by omega) h]
  simp only [Option.bind_eq_bind, Option.bind_some]
  rw [← (sortByName_perm members).length_eq, readMany_flatMap (sortByName members) read,
    Payload.canonical_object, sortByName_map]
  rfl

lemma encode_length_lt_of_item {items : List Payload} {p : Payload} (h : p ∈ items) :
    (encode p).length < (encode (.list items)).length := by
  have part := length_le_flatMap encode h
  have first := head_length_pos 4 items.length
  rw [encode, encodeItems_eq_flatMap, List.length_append]
  omega

lemma encode_length_lt_of_member {members : List (String × Payload)} {m : String × Payload}
    (h : m ∈ members) : (encode m.2).length < (encode (.object members)).length := by
  have mem : m ∈ sortByName members := (sortByName_perm members).mem_iff.mpr h
  have part := length_le_flatMap (fun m => ofText m.1 ++ encode m.2) mem
  have first := head_length_pos 5 members.length
  rw [encode_object, List.length_append]
  rw [List.length_append] at part
  omega

/-! ## Round trip -/

/-- An encoded payload is read back in canonical order, whatever follows it. -/
lemma decodeNested_encode {p : Payload} (fits : p.Fits) (floatFree : p.FloatFree) {depth : Nat}
    (deep : (encode p).length ≤ depth + 1) (rest : List UInt8) :
    decodeNested (depth + 1) (encode p ++ rest) = some (p.canonical, rest) := by
  induction fits generalizing depth rest with
  | null =>
    have written : encode .null = head 7 22 := rfl
    rw [written, decodeNested, readHead_head (by omega) (by omega)]
    rfl
  | bool b =>
    have written : encode (.bool b) = head 7 (if b then 21 else 20) := by cases b <;> rfl
    rw [written, decodeNested]
    cases b <;> rw [readHead_head (by omega) (by split_ifs <;> omega)] <;> rfl
  | int h => exact decodeNested_ofInt h depth rest
  | float x => cases floatFree
  | text h =>
    -- the head is read to choose the reader of texts, which then reads it once more
    have same := readText_ofText h rest
    rw [encode, decodeNested, same, ofText, List.append_assoc, readHead_head (by omega) h]
    rfl
  | bytes h =>
    have same := readBytes_ofBytes h rest
    rw [encode, decodeNested, same, ofBytes, List.append_assoc, readHead_head (by omega) h]
    rfl
  | @list items h each ih =>
    have free : ∀ p ∈ items, p.FloatFree := by
      cases floatFree with
      | list each => exact each
    refine decodeNested_list h (fun p hp rest => ?_) rest
    have shorter := encode_length_lt_of_item hp
    obtain ⟨d, rfl⟩ := exists_depth (free p hp) (show (encode p).length ≤ depth by omega)
    exact ih p hp (free p hp) (by omega) rest
  | @object members h names each ih =>
    have free : ∀ m ∈ members, m.2.FloatFree := by
      cases floatFree with
      | object each => exact each
    refine decodeNested_object h names (fun m hm rest => ?_) rest
    have shorter := encode_length_lt_of_member hm
    obtain ⟨d, rfl⟩ := exists_depth (free m hm) (show (encode m.2).length ≤ depth by omega)
    exact ih m hm (free m hm) (by omega) rest

/-- An encoded payload is read back in canonical order, and the bytes that follow it are left. -/
theorem decode_encode_append {p : Payload} (fits : p.Fits) (floatFree : p.FloatFree)
    (rest : List UInt8) : decode (encode p ++ rest) = some (p.canonical, rest) := by
  have enough : (encode p).length ≤ (encode p ++ rest).length := by
    rw [List.length_append]
    exact Nat.le_add_right _ _
  obtain ⟨depth, h⟩ := exists_depth floatFree enough
  rw [decode, h]
  exact decodeNested_encode fits floatFree (h ▸ enough) rest

/-- Two payloads have the same bytes exactly if they agree up to the order of members. -/
theorem encode_eq_iff {p q : Payload} (hp : p.Fits) (hq : q.Fits) (free_p : p.FloatFree)
    (free_q : q.FloatFree) : encode p = encode q ↔ p.canonical = q.canonical := by
  constructor
  · intro h
    have read_p := decode_encode_append hp free_p []
    have read_q := decode_encode_append hq free_q []
    rw [h, read_q] at read_p
    exact (congrArg Prod.fst (Option.some.inj read_p)).symm
  · intro h
    rw [← encode_canonical p, h, encode_canonical]

/-! ## Objects up to the order of members -/

/-- The first byte of a head tells how many bytes of the head follow it. -/
lemma head_eq_initialByte (major n : Nat) :
    ∃ info bs, info < 28 ∧ head major n = initialByte major info :: bs ∧
      bs.length = (argumentWidth info).getD 0 := by
  rw [head]
  split_ifs with h1 h2 h3 h4
  · refine ⟨n, [], by omega, rfl, ?_⟩
    have direct : argumentWidth n = none := by
      rw [argumentWidth] <;> omega
    rw [direct]
    rfl
  · exact ⟨24, bigEndian 1 n, by omega, rfl, length_bigEndian 1 n⟩
  · exact ⟨25, bigEndian 2 n, by omega, rfl, length_bigEndian 2 n⟩
  · exact ⟨26, bigEndian 4 n, by omega, rfl, length_bigEndian 4 n⟩
  · exact ⟨27, bigEndian 8 n, by omega, rfl, length_bigEndian 8 n⟩

/-- What follows a head is told from equal bytes, also where the number of the head is too great. -/
lemma head_append_inj {major m n : Nat} (hm : major < 8) {bs cs : List UInt8}
    (h : head major m ++ bs = head major n ++ cs) : bs = cs := by
  obtain ⟨i, is, hi, head_m, length_m⟩ := head_eq_initialByte major m
  obtain ⟨j, js, hj, head_n, length_n⟩ := head_eq_initialByte major n
  rw [head_m, head_n, List.cons_append, List.cons_append, List.cons.injEq] at h
  obtain ⟨first, more⟩ := h
  have same : i = j := by
    have toNat_i := toNat_initialByte hm (show i < 32 by omega)
    have toNat_j := toNat_initialByte hm (show j < 32 by omega)
    rw [first, toNat_j] at toNat_i
    omega
  have width : is.length = js.length := by rw [length_m, length_n, same]
  exact (List.append_inj more width).2

lemma ofText_injective : Function.Injective ofText := by
  intro s t h
  have bytes : Text.Utf8.encode s.toList = Text.Utf8.encode t.toList :=
    head_append_inj (by omega) h
  have read_s := Text.Utf8.decode_encode s.toList
  rw [bytes, Text.Utf8.decode_encode, Except.ok.injEq] at read_s
  exact String.toList_injective read_s.symm

/-- Where every name is bound once there is only one order of the members by their names. -/
lemma sortByName_eq_of_perm {l m : List (String × Payload)} (perm : l.Perm m)
    (nodup : (Keyed.keys l).Nodup) : sortByName l = sortByName m := by
  have perm_l : (sortByName l).Perm l := sortByName_perm l
  have perm_m : (sortByName m).Perm l := (sortByName_perm m).trans perm.symm
  -- two entries neither of which comes first have one name, so they are one entry of `l`
  refine List.Perm.eq_of_pairwise ?_ (pairwise_sortByName l) (pairwise_sortByName m)
    (perm_l.trans perm_m.symm)
  intro a b ha hb le_ab le_ba
  rw [perm_l.mem_iff] at ha
  rw [perm_m.mem_iff] at hb
  have same : a.1 = b.1 := ofText_injective (bytesLe_antisymm le_ab le_ba)
  exact List.inj_on_of_nodup_map nodup ha hb same

end Cbor

namespace Payload

/-- Objects that bind every name once agree up to order exactly if they bind the same names to
payloads that do. -/
lemma canonical_object_iff {l m : List (String × Payload)} (hl : (Keyed.keys l).Nodup)
    (hm : (Keyed.keys m).Nodup) :
    (object l).canonical = (object m).canonical ↔
      ∀ name, (l.lookup name).map canonical = (m.lookup name).map canonical := by
  have lookups : (∀ name, (l.lookup name).map canonical = (m.lookup name).map canonical) ↔
      (l.map fun e => (e.1, e.2.canonical)).Perm (m.map fun e => (e.1, e.2.canonical)) := by
    rw [Keyed.perm_iff_lookup (by rwa [Keyed.keys_map_value]) (by rwa [Keyed.keys_map_value])]
    simp only [Keyed.lookup_map_value]
  rw [lookups, canonical_object, canonical_object, Payload.object.injEq]
  constructor
  · intro h
    have perm : (sortByName (l.map fun e => (e.1, e.2.canonical))).Perm
        (m.map fun e => (e.1, e.2.canonical)) := h ▸ sortByName_perm _
    exact (sortByName_perm _).symm.trans perm
  · intro perm
    exact Cbor.sortByName_eq_of_perm perm (by rwa [Keyed.keys_map_value])

/-- Objects with the same names in the same order agree up to order exactly if their values do. -/
lemma canonical_record_iff {l m : List (String × Payload)} (same : Keyed.keys l = Keyed.keys m)
    (nodup : (Keyed.keys l).Nodup) :
    (object l).canonical = (object m).canonical ↔
      l.map (fun e => e.2.canonical) = m.map fun e => e.2.canonical := by
  have values : ∀ k : List (String × Payload), k.map (fun e => e.2.canonical) =
      (k.map fun e => (e.1, e.2.canonical)).map Prod.snd := by
    intro k
    simp
  have names : Keyed.keys (l.map fun e => (e.1, e.2.canonical)) =
      Keyed.keys (m.map fun e => (e.1, e.2.canonical)) := by
    rw [Keyed.keys_map_value, Keyed.keys_map_value, same]
  rw [canonical_object, canonical_object, Payload.object.injEq, values l, values m]
  constructor
  · intro h
    have perm : (l.map fun e => (e.1, e.2.canonical)).Perm
        (sortByName (m.map fun e => (e.1, e.2.canonical))) := h ▸ (sortByName_perm _).symm
    rw [Keyed.eq_of_perm (perm.trans (sortByName_perm _)) names
      (by rwa [Keyed.keys_map_value])]
  · intro h
    rw [Keyed.eq_of_keys_of_values names h]

end Payload

end TargetAssembly
