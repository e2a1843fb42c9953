import Mathlib.Tactic.Lemma
import Mathlib.Tactic.SplitIfs
import TargetAssembly.Text.Utf8

/-!
# Texts survive UTF-8

The bytes of a text are read back as that text, whatever its characters are.  A character has one to
four bytes; its code point is put together from the bits that each of them carries, and the bounds
that reading checks follow from the range of the code point.
-/

namespace TargetAssembly.Text.Utf8

/-! ## Single bytes -/

lemma toNat_ofNat {n : Nat} (h : n < 256) : (UInt8.ofNat n).toNat = n :=
  UInt8.toNat_ofNat_of_lt' h

/-- The byte that carries the low six bits of a number. -/
def tail (n : Nat) : UInt8 := UInt8.ofNat (n % 64 + 128)

lemma toNat_tail (n : Nat) : (tail n).toNat = n % 64 + 128 := toNat_ofNat (by omega)

lemma isTail_iff {b : UInt8} : isTail b = true ↔ 128 ≤ b.toNat ∧ b.toNat ≤ 191 := by
  simp [isTail, UInt8.le_iff_toNat_le]

lemma isTail_tail (n : Nat) : isTail (tail n) = true := by
  rw [isTail_iff, toNat_tail]
  omega

lemma tailBits_tail (n : Nat) : tailBits (tail n) = n % 64 := by
  rw [tailBits, toNat_tail]
  omega

lemma isSecond_iff {a b : UInt8} :
    isSecond a b = true ↔ isTail b = true ∧ (a.toNat = 224 → 160 ≤ b.toNat) ∧
      (a.toNat = 237 → b.toNat < 160) ∧ (a.toNat = 240 → 144 ≤ b.toNat) ∧
      (a.toNat = 244 → b.toNat < 144) := by
  simp [isSecond, UInt8.le_iff_toNat_le, UInt8.lt_iff_toNat_lt, ← UInt8.toNat_inj, and_assoc,
    Decidable.imp_iff_not_or]

/-! ## Characters by the number of their bytes -/

section Reading

variable {a b c d : UInt8} (position : Nat) (rest : List UInt8)

lemma decodeFrom_one (h : a.toNat < 128) :
    decodeFrom position (a :: rest) =
      (decodeFrom (position + 1) rest).map (Char.ofNat a.toNat :: ·) := by
  have ha : a < 0x80 := UInt8.lt_iff_toNat_lt.mpr h
  rw [decodeFrom.eq_def]
  simp only [if_pos ha]

lemma decodeFrom_two (least : 194 ≤ a.toNat) (most : a.toNat < 224) (hb : isTail b = true) :
    decodeFrom position (a :: b :: rest) = (decodeFrom (position + 2) rest).map
      (Char.ofNat (a.toNat % 32 * 64 + tailBits b) :: ·) := by
  have h1 : ¬ a < 0x80 := by simp [UInt8.lt_iff_toNat_lt]; omega
  have h2 : ¬ a < 0xc2 := by simp [UInt8.lt_iff_toNat_lt]; omega
  have h3 : a < 0xe0 := UInt8.lt_iff_toNat_lt.mpr most
  rw [decodeFrom.eq_def]
  simp only [if_neg h1, if_neg h2, if_pos h3, if_pos hb]

lemma decodeFrom_three (least : 224 ≤ a.toNat) (most : a.toNat < 240)
    (hb : isSecond a b = true) (hc : isTail c = true) :
    decodeFrom position (a :: b :: c :: rest) = (decodeFrom (position + 3) rest).map
      (Char.ofNat ((a.toNat % 16 * 64 + tailBits b) * 64 + tailBits c) :: ·) := by
  have h1 : ¬ a < 0x80 := by simp [UInt8.lt_iff_toNat_lt]; omega
  have h2 : ¬ a < 0xc2 := by simp [UInt8.lt_iff_toNat_lt]; omega
  have h3 : ¬ a < 0xe0 := by simp [UInt8.lt_iff_toNat_lt]; omega
  have h4 : a < 0xf0 := UInt8.lt_iff_toNat_lt.mpr most
  rw [decodeFrom.eq_def]
  simp only [if_neg h1, if_neg h2, if_neg h3, if_pos h4, hb, hc, Bool.not_true,
    Bool.false_eq_true, if_false, if_true]

lemma decodeFrom_four (least : 240 ≤ a.toNat) (most : a.toNat < 245)
    (hb : isSecond a b = true) (hc : isTail c = true) (hd : isTail d = true) :
    decodeFrom position (a :: b :: c :: d :: rest) =
      (decodeFrom (position + 4) rest).map (Char.ofNat
        (((a.toNat % 8 * 64 + tailBits b) * 64 + tailBits c) * 64 + tailBits d) :: ·) := by
  have h1 : ¬ a < 0x80 := by simp [UInt8.lt_iff_toNat_lt]; omega
  have h2 : ¬ a < 0xc2 := by simp [UInt8.lt_iff_toNat_lt]; omega
  have h3 : ¬ a < 0xe0 := by simp [UInt8.lt_iff_toNat_lt]; omega
  have h4 : ¬ a < 0xf0 := by simp [UInt8.lt_iff_toNat_lt]; omega
  have h5 : a < 0xf5 := UInt8.lt_iff_toNat_lt.mpr most
  rw [decodeFrom.eq_def]
  simp only [if_neg h1, if_neg h2, if_neg h3, if_neg h4, if_pos h5, hb, hc, hd, Bool.not_true,
    Bool.false_eq_true, if_false, if_true]

end Reading

/-- The bytes of a character, each but the first with six bits of its code point. -/
lemma encodeChar_eq (c : Char) :
    encodeChar c =
      if c.toNat ≤ 127 then [UInt8.ofNat c.toNat]
      else if c.toNat ≤ 2047 then [UInt8.ofNat (c.toNat / 64 % 32 + 192), tail c.toNat]
      else if c.toNat ≤ 65535 then
        [UInt8.ofNat (c.toNat / 4096 % 16 + 224), tail (c.toNat / 64), tail c.toNat]
      else [UInt8.ofNat (c.toNat / 262144 % 8 + 240), tail (c.toNat / 4096), tail (c.toNat / 64),
        tail c.toNat] :=
  rfl

/-- Characters of ASCII are written as one byte each. -/
lemma encode_of_lt {cs : List Char} (ascii : ∀ c ∈ cs, c.toNat < 0x80) :
    encode cs = cs.map fun c => UInt8.ofNat c.toNat := by
  induction cs with
  | nil => rfl
  | cons c cs ih =>
    rw [List.forall_mem_cons] at ascii
    rw [encode, List.flatMap_cons, encodeChar_eq, if_pos (by omega), ← encode, ih ascii.2]
    rfl

/-- Reading takes the bytes of a character as that character. -/
lemma decodeFrom_encodeChar (c : Char) (position : Nat) (rest : List UInt8) :
    decodeFrom position (encodeChar c ++ rest) =
      (decodeFrom (position + (encodeChar c).length) rest).map (c :: ·) := by
  have valid : c.toNat < 0xd800 ∨ 0xdfff < c.toNat ∧ c.toNat < 0x110000 := c.valid
  have same : ∀ n, n = c.toNat → Char.ofNat n = c := by
    rintro n rfl
    exact Char.ofNat_toNat c
  rw [encodeChar_eq]
  split_ifs with h1 h2 h3
  · have ha : (UInt8.ofNat c.toNat).toNat = c.toNat := toNat_ofNat (by omega)
    refine (decodeFrom_one position rest (by omega)).trans ?_
    rw [ha, same _ rfl]
    rfl
  · have ha : (UInt8.ofNat (c.toNat / 64 % 32 + 192)).toNat = c.toNat / 64 % 32 + 192 :=
      toNat_ofNat (by omega)
    refine (decodeFrom_two position rest (by omega) (by omega) (isTail_tail _)).trans ?_
    rw [ha, tailBits_tail, same _ (by omega)]
    rfl
  · have ha : (UInt8.ofNat (c.toNat / 4096 % 16 + 224)).toNat = c.toNat / 4096 % 16 + 224 :=
      toNat_ofNat (by omega)
    -- neither too short a code point nor a surrogate, since `c` is a character of this range
    have second :
        isSecond (UInt8.ofNat (c.toNat / 4096 % 16 + 224)) (tail (c.toNat / 64)) = true := by
      rw [isSecond_iff, ha, toNat_tail]
      exact ⟨isTail_tail _, by omega, by omega, by omega, by omega⟩
    refine (decodeFrom_three position rest (by omega) (by omega) second (isTail_tail _)).trans ?_
    rw [ha, tailBits_tail, tailBits_tail, same _ (by omega)]
    rfl
  · have ha : (UInt8.ofNat (c.toNat / 262144 % 8 + 240)).toNat = c.toNat / 262144 % 8 + 240 :=
      toNat_ofNat (by omega)
    -- the first byte is at most 244, and a code point is below 0x110000
    have second :
        isSecond (UInt8.ofNat (c.toNat / 262144 % 8 + 240)) (tail (c.toNat / 4096)) = true := by
      rw [isSecond_iff, ha, toNat_tail]
      exact ⟨isTail_tail _, by omega, by omega, by omega, by omega⟩
    refine (decodeFrom_four position rest (by omega) (by omega) second (isTail_tail _)
      (isTail_tail _)).trans ?_
    rw [ha, tailBits_tail, tailBits_tail, tailBits_tail, same _ (by omega)]
    rfl

/-! ## Bytes of a character that is read -/

lemma tailBits_lt (b : UInt8) : tailBits b < 64 := Nat.mod_lt _ (by decide)

lemma ofNat_eq {n : Nat} {b : UInt8} (h : n = b.toNat) : UInt8.ofNat n = b := by
  rw [h, UInt8.ofNat_toNat]

lemma tail_eq {n : Nat} {b : UInt8} (hb : isTail b = true) (h : n % 64 = tailBits b) :
    tail n = b := by
  obtain ⟨least, most⟩ := isTail_iff.mp hb
  refine ofNat_eq ?_
  rw [h, tailBits]
  omega

section Writing

variable {a b c d : UInt8}

lemma encodeChar_ofNat {n : Nat} (valid : n.isValidChar) :
    encodeChar (Char.ofNat n) =
      if n ≤ 127 then [UInt8.ofNat n]
      else if n ≤ 2047 then [UInt8.ofNat (n / 64 % 32 + 192), tail n]
      else if n ≤ 65535 then [UInt8.ofNat (n / 4096 % 16 + 224), tail (n / 64), tail n]
      else [UInt8.ofNat (n / 262144 % 8 + 240), tail (n / 4096), tail (n / 64), tail n] := by
  have code : (Char.ofNat n).toNat = n := by
    rw [Char.ofNat, dif_pos valid]
    rfl
  rw [encodeChar_eq, code]

lemma encodeChar_one (h : a.toNat < 128) : encodeChar (Char.ofNat a.toNat) = [a] := by
  rw [encodeChar_ofNat (.inl (by omega)), if_pos (by omega), ofNat_eq rfl]

lemma encodeChar_two (least : 194 ≤ a.toNat) (most : a.toNat < 224) (hb : isTail b = true) :
    encodeChar (Char.ofNat (a.toNat % 32 * 64 + tailBits b)) = [a, b] := by
  have bits := tailBits_lt b
  rw [encodeChar_ofNat (.inl (by omega)), if_neg (by omega), if_pos (by omega),
    ofNat_eq (b := a) (by omega), tail_eq hb (by omega)]

lemma encodeChar_three (least : 224 ≤ a.toNat) (most : a.toNat < 240) (hb : isSecond a b = true)
    (hc : isTail c = true) :
    encodeChar (Char.ofNat ((a.toNat % 16 * 64 + tailBits b) * 64 + tailBits c)) = [a, b, c] := by
  obtain ⟨hb, long, no_half, -, -⟩ := isSecond_iff.mp hb
  obtain ⟨leastTail, mostTail⟩ := isTail_iff.mp hb
  have bitsB : tailBits b = b.toNat - 128 := by
    rw [tailBits]
    omega
  have bitsC := tailBits_lt c
  have valid : ((a.toNat % 16 * 64 + tailBits b) * 64 + tailBits c).isValidChar := by
    show _ < 0xd800 ∨ 0xdfff < _ ∧ _ < 0x110000
    omega
  rw [encodeChar_ofNat valid, if_neg (by omega), if_neg (by omega), if_pos (by omega),
    ofNat_eq (b := a) (by omega), tail_eq hb (by omega), tail_eq hc (by omega)]

lemma encodeChar_four (least : 240 ≤ a.toNat) (most : a.toNat < 245) (hb : isSecond a b = true)
    (hc : isTail c = true) (hd : isTail d = true) :
    encodeChar (Char.ofNat
      (((a.toNat % 8 * 64 + tailBits b) * 64 + tailBits c) * 64 + tailBits d)) = [a, b, c, d] := by
  obtain ⟨hb, -, -, long, inRange⟩ := isSecond_iff.mp hb
  obtain ⟨leastTail, mostTail⟩ := isTail_iff.mp hb
  have bitsB : tailBits b = b.toNat - 128 := by
    rw [tailBits]
    omega
  have bitsC := tailBits_lt c
  have bitsD := tailBits_lt d
  have valid :
      (((a.toNat % 8 * 64 + tailBits b) * 64 + tailBits c) * 64 + tailBits d).isValidChar := by
    show _ < 0xd800 ∨ 0xdfff < _ ∧ _ < 0x110000
    omega
  rw [encodeChar_ofNat valid, if_neg (by omega), if_neg (by omega), if_neg (by omega),
    ofNat_eq (b := a) (by omega), tail_eq hb (by omega), tail_eq hc (by omega),
    tail_eq hd (by omega)]

end Writing

/-! ## Texts -/

lemma decodeFrom_encode (cs : List Char) (position : Nat) :
    decodeFrom position (encode cs) = .ok cs := by
  induction cs generalizing position with
  | nil =>
    rw [encode, List.flatMap_nil, decodeFrom.eq_def]
  | cons c cs ih =>
    rw [encode, List.flatMap_cons, decodeFrom_encodeChar, ← encode, ih]
    rfl

/-- The bytes of a text are read back as that text. -/
theorem decode_encode (cs : List Char) : decode (encode cs) = .ok cs :=
  decodeFrom_encode cs 0

/-- A character that is read, with what is read behind it. -/
lemma encode_of_map {r : Except Flaw (List Char)} {c : Char} {front rest : List UInt8}
    {cs : List Char} (char : encodeChar c = front)
    (behind : ∀ {ds}, r = .ok ds → encode ds = rest) (h : r.map (c :: ·) = .ok cs) :
    encode cs = front ++ rest := by
  cases r with
  | error flaw => cases h
  | ok ds =>
    cases h
    rw [encode, List.flatMap_cons, char, ← encode, behind rfl]

lemma encode_of_decodeFrom {position : Nat} {bytes : List UInt8} {cs : List Char}
    (h : decodeFrom position bytes = .ok cs) : encode cs = bytes := by
  fun_induction decodeFrom position bytes generalizing cs with
  | case1 =>
    cases h
    rfl
  | case2 position a rest one ih =>
    exact encode_of_map (encodeChar_one (UInt8.lt_iff_toNat_lt.mp one)) ih h
  | case5 position a not_one least most b rest hb ih =>
    simp only [UInt8.lt_iff_toNat_lt, Nat.not_lt] at least most
    exact encode_of_map (encodeChar_two least most hb) ih h
  | case10 position a not_one least long most b hb c rest hc ih =>
    simp only [UInt8.lt_iff_toNat_lt, Nat.not_lt] at long most
    rw [Bool.not_eq_true', Bool.not_eq_false] at hb
    exact encode_of_map (encodeChar_three long most hb hc) ih h
  | case17 position a not_one least long longer most b hb c hc d rest hd ih =>
    simp only [UInt8.lt_iff_toNat_lt, Nat.not_lt] at longer most
    rw [Bool.not_eq_true', Bool.not_eq_false] at hb hc
    exact encode_of_map (encodeChar_four longer most hb hc hd) ih h
  | _ => cases h

/-- Bytes that are read as a text are the bytes of that text. -/
theorem encode_of_decode {bytes : List UInt8} {cs : List Char} (h : decode bytes = .ok cs) :
    encode cs = bytes :=
  encode_of_decodeFrom h

end TargetAssembly.Text.Utf8
