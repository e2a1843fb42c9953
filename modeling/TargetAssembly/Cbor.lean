import TargetAssembly.Binary64
import TargetAssembly.Payload
import TargetAssembly.Text.Utf8

/-!
# Canonical CBOR

Payloads are encoded so that equal data have equal bytes: lengths are given in advance and as
short as they go, whole numbers take their shortest form, floating point numbers the narrowest
format that keeps them, and the members of an object stand in the order of their encoded names,
shorter ones first.
-/

namespace TargetAssembly.Cbor

/-! ## Heads -/

/-- A number in a given count of bytes, the most significant first. -/
def bigEndian : (width : Nat) → Nat → List UInt8
  | 0, _ => []
  | width + 1, n => bigEndian width (n / 256) ++ [UInt8.ofNat (n % 256)]

@[simp] theorem length_bigEndian (width n : Nat) : (bigEndian width n).length = width := by
  induction width generalizing n with
  | zero => rfl
  | succ w ih => simp [bigEndian, ih]

/-- The first byte of a head: three bits of major type and five bits of further information. -/
def initialByte (major info : Nat) : UInt8 := UInt8.ofNat (major * 32 + info)

/-- A head: a major type and a number below `2 ^ 64`, in the shortest form. -/
def head (major n : Nat) : List UInt8 :=
  if n < 24 then [initialByte major n]
  else if n < 0x100 then initialByte major 24 :: bigEndian 1 n
  else if n < 0x10000 then initialByte major 25 :: bigEndian 2 n
  else if n < 0x100000000 then initialByte major 26 :: bigEndian 4 n
  else initialByte major 27 :: bigEndian 8 n

/-! ## Scalars -/

/-- A byte string. -/
def ofBytes (bs : List UInt8) : List UInt8 := head 2 bs.length ++ bs

/-- A text. -/
def ofText (s : String) : List UInt8 :=
  let bs := Text.Utf8.encode s.toList
  head 3 bs.length ++ bs

/-- The fewest bytes that hold a positive number. -/
def leastWidth (n : Nat) : Nat := n.log2 / 8 + 1

/-- A number under a major type, or as a tagged byte string if it does not fit a head. -/
def ofMagnitude (major tag n : Nat) : List UInt8 :=
  if n < 0x10000000000000000 then head major n
  else head 6 tag ++ ofBytes (bigEndian (leastWidth n) n)

/-- A whole number; a negative one is counted down from minus one. -/
def ofInt : Int → List UInt8
  | .ofNat n => ofMagnitude 0 2 n
  | .negSucc n => ofMagnitude 1 3 n

/-- A floating point number in the narrowest format that keeps it. -/
def ofFloat (x : Binary64) : List UInt8 :=
  let sign (bits : Nat) : Nat := if x.negative then bits else 0
  if x.isNaN then initialByte 7 25 :: bigEndian 2 0x7e00
  else if x.isInfinite then initialByte 7 25 :: bigEndian 2 (0x7c00 + sign 0x8000)
  else match x.narrow? 5 10 with
    | some bits => initialByte 7 25 :: bigEndian 2 (bits + sign 0x8000)
    | none =>
      match x.narrow? 8 23 with
      | some bits => initialByte 7 26 :: bigEndian 4 (bits + sign 0x80000000)
      | none => initialByte 7 27 :: bigEndian 8 x.bits.toNat

/-! ## Payloads -/

/-- The order of byte strings: shorter ones first, and of equal length byte by byte. -/
def bytesLe (a b : List UInt8) : Bool :=
  a.length < b.length || (a.length == b.length && a ≤ b)

/-- What is kept of the members of an object under their encoded names, in the order of these. -/
def sortMembers {α : Type} (members : List (List UInt8 × α)) : List (List UInt8 × α) :=
  members.mergeSort fun a b => bytesLe a.1 b.1

mutual

/-- The bytes of a payload; a problem has none. -/
def encode : Payload → List UInt8
  | .null => [initialByte 7 22]
  | .bool b => [initialByte 7 (if b then 21 else 20)]
  | .int i => ofInt i
  | .float x => ofFloat x
  | .text s => ofText s
  | .bytes bs => ofBytes bs
  | .list items => head 4 items.length ++ encodeItems items
  | .object members =>
    head 5 members.length ++ (sortMembers (encodeMembers members)).flatMap fun m => m.1 ++ m.2
  | .problem .. => []

/-- The bytes of the items of a list, one after the other. -/
def encodeItems : List Payload → List UInt8
  | [] => []
  | v :: rest => encode v ++ encodeItems rest

/-- The bytes of the names and of the values of an object. -/
def encodeMembers : List (String × Payload) → List (List UInt8 × List UInt8)
  | [] => []
  | (name, v) :: rest => (ofText name, encode v) :: encodeMembers rest

end

/-! ## What has no bytes -/

mutual

/-- The type of the problem in a payload that is met first when its bytes are written, if there is
one. -/
def problemType? : Payload → Option String
  | .list items => problemItem? items
  | .object members => (sortMembers (problemMembers members)).findSome? Prod.snd
  | .problem _ kind _ _ _ => some kind.name
  | _ => none

/-- The type of the problem that is met first in the items of a list. -/
def problemItem? : List Payload → Option String
  | [] => none
  | v :: rest => (problemType? v).or (problemItem? rest)

/-- What is met in the values of an object, under their encoded names. -/
def problemMembers : List (String × Payload) → List (List UInt8 × Option String)
  | [] => []
  | (name, v) :: rest => (ofText name, problemType? v) :: problemMembers rest

end

/-- The bytes of a payload, unless there is a problem in it. -/
def write (p : Payload) : Except Misfit (List UInt8) :=
  match problemType? p with
  | some type => .error (.noBytes type)
  | none => .ok (encode p)

end TargetAssembly.Cbor
