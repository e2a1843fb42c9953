import Mathlib.Data.List.TakeWhile
import TargetAssembly.Json.Basic
import TargetAssembly.Json.Reader
import TargetAssembly.Proofs.FirstFlaw

/-!
# How words and texts are spelled

Texts are read as they were written (`spellsText_written`), and words as well.  A text that spells a
value is read as that value, with or without blanks around it.
-/

namespace TargetAssembly.Json

/-!
## Texts

A text is written in ASCII alone, a character beyond the first 65536 in two halves, each by its
number, and a half without the other half as well.  `spellsText_written` says that reading from
behind the opening quote undoes all of that: it gives the positions back and stops behind the
closing quote, whatever follows there, provided that no two of them are the halves of one character.  The
reader passes over the text once for the halves and joins them afterwards, so the proof follows the
two passes; and what it leaves is always of that sort (`settled_of_textAt`).
-/

open Text (Point)

/-! ### Codes by their number -/

lemma digit?_hexDigit {n : Nat} (small : n < 16) : Text.Hex.digit? (Text.hexDigit n) = some n := by
  have digits : ∀ k < 16, Text.Hex.digit? (Text.hexDigit k) = some k := by decide
  exact digits n small

/-- Four hexadecimal digits give the code that they were written for. -/
lemma hexFour?_hexDigits {code : Nat} (small : code < 0x10000) :
    ∃ a b c d, Text.hexDigits 4 code = [a, b, c, d] ∧ hexFour? a b c d = some code := by
  refine ⟨_, _, _, _, rfl, ?_⟩
  have digit (n : Nat) : Text.Hex.digit? (Text.hexDigit (n % 16)) = some (n % 16) :=
    digit?_hexDigit (Nat.mod_lt n (by decide))
  simp only [hexFour?, digit, Option.pure_def, Option.bind_eq_bind, Option.bind_some,
    Option.some.injEq]
  omega

/-- The code of a character is no half of a surrogate pair. -/
lemma pointOf_toNat (c : Char) : pointOf c.toNat = .char c := by
  have scalar : c.toNat < 0xd800 ∨ 0xdfff < c.toNat ∧ c.toNat < 0x110000 := c.valid
  have whole : (isHighHalf c.toNat || isLowHalf c.toNat) = false := by
    simp only [isHighHalf, isLowHalf, Bool.or_eq_false_iff, Bool.and_eq_false_iff,
      decide_eq_false_iff_not]
    omega
  rw [pointOf, whole, if_neg Bool.false_ne_true, Char.ofNat_toNat]

/-! ### Halves of surrogate pairs -/

/-- The code of the first half of a character beyond the first 65536. -/
def highHalf (c : Char) : Nat := 0xd800 + (c.toNat - 0x10000) / 0x400

/-- The code of the second half of a character beyond the first 65536. -/
def lowHalf (c : Char) : Nat := 0xdc00 + (c.toNat - 0x10000) % 0x400

/-- The positions that a character takes before halves are joined. -/
def halves (c : Char) : List Point :=
  if c.toNat < 0x10000 then [.char c] else [.half (highHalf c), .half (lowHalf c)]

lemma lowHalf_range (c : Char) : 0xdc00 ≤ lowHalf c ∧ lowHalf c ≤ 0xdfff := by
  unfold lowHalf
  omega

lemma isLowHalf_lowHalf (c : Char) : isLowHalf (lowHalf c) = true := by
  simpa [isLowHalf] using lowHalf_range c

lemma pointOf_lowHalf (c : Char) : pointOf (lowHalf c) = .half (lowHalf c) := by
  simp [pointOf, isLowHalf_lowHalf]

section Beyond

variable {c : Char}

lemma highHalf_range (beyond : ¬ c.toNat < 0x10000) :
    0xd800 ≤ highHalf c ∧ highHalf c ≤ 0xdbff := by
  have scalar : c.toNat < 0xd800 ∨ 0xdfff < c.toNat ∧ c.toNat < 0x110000 := c.valid
  unfold highHalf
  omega

lemma isHighHalf_highHalf (beyond : ¬ c.toNat < 0x10000) : isHighHalf (highHalf c) = true := by
  simpa [isHighHalf] using highHalf_range beyond

lemma pointOf_highHalf (beyond : ¬ c.toNat < 0x10000) :
    pointOf (highHalf c) = .half (highHalf c) := by
  simp [pointOf, isHighHalf_highHalf beyond]

lemma joinHalves_halves (beyond : ¬ c.toNat < 0x10000) :
    joinHalves (highHalf c) (lowHalf c) = c := by
  have code : 0x10000 + (highHalf c - 0xd800) * 0x400 + (lowHalf c - 0xdc00) = c.toNat := by
    simp only [highHalf, lowHalf]
    omega
  rw [joinHalves, code, Char.ofNat_toNat]

/-- A character beyond the first 65536 is written by the codes of its halves. -/
lemma escapeNumber_beyond (beyond : ¬ c.toNat < 0x10000) :
    escapeNumber c.toNat = escapeCode (highHalf c) ++ escapeCode (lowHalf c) :=
  if_neg beyond

end Beyond

/-- The positions that a position takes before halves are joined. -/
def halvesOf : Point → List Point
  | .char c => halves c
  | .half code => [.half code]

lemma joinPairs_halves (c : Char) (ps : List Point) :
    joinPairs (halves c ++ ps) = .char c :: joinPairs ps := by
  by_cases small : c.toNat < 0x10000
  · simp [halves, small, joinPairs]
  · simp [halves, small, joinPairs, isHighHalf_highHalf small, isLowHalf_lowHalf c,
      joinHalves_halves small]

/-! ### Joining halves -/

/-- A position and what follows it do not start with the two halves of a character. -/
def Apart (p : Point) (ps : List Point) : Prop :=
  ∀ high low rest, p = .half high → ps = .half low :: rest →
    ¬ (isHighHalf high && isLowHalf low) = true

lemma joinPairs_cons {p : Point} {ps : List Point} (apart : Apart p ps) :
    joinPairs (p :: ps) = p :: joinPairs ps := by
  cases p with
  | char c => rfl
  | half high =>
    cases ps with
    | nil => rfl
    | cons q ps =>
      cases q with
      | char c => rfl
      | half low => rw [joinPairs, if_neg (apart high low ps rfl rfl)]

/-- Positions start with the two halves of a character, or with one that stays as it is. -/
@[elab_as_elim]
lemma joinPairs_induction {motive : List Point → Prop} (nil : motive [])
    (pair : ∀ high low ps, (isHighHalf high && isLowHalf low) = true → motive ps →
      motive (.half high :: .half low :: ps))
    (single : ∀ p ps, Apart p ps → motive ps → motive (p :: ps)) (ps : List Point) : motive ps := by
  induction ps using joinPairs.induct with
  | case1 => exact nil
  | case2 high low ps halves ih => exact pair high low ps halves ih
  | case3 high low ps apart ih =>
    refine single _ _ ?_ ih
    rintro _ _ _ ⟨⟩ ⟨⟩
    exact apart
  | case4 p ps apart ih =>
    refine single _ _ (fun high low rest half follows => ?_) ih
    exact (apart high low rest half follows).elim

lemma apart_halves {p : Point} {c : Char} {ps : List Point} : Apart p (halves c ++ ps) := by
  intro high low rest _ same
  by_cases small : c.toNat < 0x10000
  · simp [halves, small] at same
  · simp only [halves, small, if_false, List.cons_append, List.cons.injEq, Point.half.injEq] at same
    have range := highHalf_range small
    rw [same.1] at range
    simp only [isLowHalf, Bool.and_eq_true, decide_eq_true_eq]
    omega

/-- Taking characters apart into halves changes nothing of what is joined. -/
lemma joinPairs_flatMap_halvesOf (ps : List Point) :
    joinPairs (ps.flatMap halvesOf) = joinPairs ps := by
  induction ps using joinPairs_induction with
  | nil => rfl
  | pair high low ps pair ih => simp [halvesOf, joinPairs, pair, ih]
  | single p ps apart ih =>
    rw [List.flatMap_cons, joinPairs_cons apart]
    cases p with
    | char c => rw [halvesOf, joinPairs_halves, ih]
    | half high =>
      have apart' : Apart (.half high) (ps.flatMap halvesOf) := by
        cases ps with
        | nil => exact fun _ _ _ _ same => by cases same
        | cons q ps =>
          cases q with
          | char c => exact apart_halves
          | half low =>
            rintro _ _ _ ⟨⟩ ⟨⟩
            exact apart high low ps rfl rfl
      rw [halvesOf, List.singleton_append, joinPairs_cons apart', ih]

/-- Joining makes no halves. -/
lemma mem_of_mem_joinPairs {ps : List Point} {code : Nat} (h : .half code ∈ joinPairs ps) :
    .half code ∈ ps := by
  induction ps using joinPairs_induction with
  | nil => cases h
  | pair high low ps pair ih =>
    simp only [joinPairs, pair, if_true, List.mem_cons, reduceCtorEq, false_or] at h
    exact List.mem_cons_of_mem _ (List.mem_cons_of_mem _ (ih h))
  | single p ps apart ih =>
    rw [joinPairs_cons apart] at h
    rcases List.mem_cons.mp h with rfl | later
    · exact List.mem_cons_self
    · exact List.mem_cons_of_mem _ (ih later)

/-- What stays as it is does so after what follows was joined: a half comes first there only where
it came first before. -/
lemma Apart.joinPairs {p : Point} {ps : List Point} (apart : Apart p ps) :
    Apart p (joinPairs ps) := by
  intro high low rest half same
  induction ps using joinPairs_induction with
  | nil => cases same
  | pair high' low' ps pair => simp [Json.joinPairs, pair] at same
  | single q ps alone =>
    rw [joinPairs_cons alone] at same
    cases same
    exact apart high low ps half rfl

/-- Joining once is enough. -/
lemma joinPairs_joinPairs (ps : List Point) : joinPairs (joinPairs ps) = joinPairs ps := by
  induction ps using joinPairs_induction with
  | nil => rfl
  | pair high low ps pair ih => simp [joinPairs, pair, ih]
  | single p ps apart ih => rw [joinPairs_cons apart, joinPairs_cons apart.joinPairs, ih]

/-! ### Settled positions -/

/-- Positions as the reader leaves them: what is called a half is one, and no two positions are the
halves of one character. -/
structure Settled (s : List Point) : Prop where
  halves : ∀ code, .half code ∈ s → (isHighHalf code || isLowHalf code) = true
  joined : joinPairs s = s

lemma settled_ofChars (cs : List Char) : Settled (Point.ofChars cs) := by
  constructor
  · intro code half
    obtain ⟨c, -, same⟩ := List.mem_map.mp half
    cases same
  · induction cs with
    | nil => rfl
    | cons c cs ih => exact congrArg (.char c :: ·) ih

lemma settled_ofString (s : String) : Settled (Point.ofString s) := settled_ofChars s.toList

lemma lt_of_half {code : Nat} (half : (isHighHalf code || isLowHalf code) = true) :
    code < 0x10000 := by
  simp only [isHighHalf, isLowHalf, Bool.or_eq_true, Bool.and_eq_true, decide_eq_true_eq] at half
  omega

/-! ### One character -/

/-- A character is written behind a backslash, as itself, or by its number. -/
lemma escapePoint_cases (c : Char) :
    (∃ letter, letter ≠ 'u' ∧ letterEscape? letter = some c ∧ c.toNat < 0x10000 ∧
        escapePoint (.char c) = ['\\', letter]) ∨
      (c ≠ '\x22' ∧ c ≠ '\\' ∧ 0x20 ≤ c.toNat ∧ c.toNat < 0x10000 ∧
        escapePoint (.char c) = [c]) ∨
      escapePoint (.char c) = escapeNumber c.toNat := by
  unfold escapePoint
  split
  case h_1 h => cases h; exact .inl ⟨'\x22', by decide⟩
  case h_2 h => cases h; exact .inl ⟨'\\', by decide⟩
  case h_3 h => cases h; exact .inl ⟨'n', by decide⟩
  case h_4 h => cases h; exact .inl ⟨'r', by decide⟩
  case h_5 h => cases h; exact .inl ⟨'t', by decide⟩
  case h_6 h => cases h; exact .inl ⟨'f', by decide⟩
  case h_7 h => cases h; exact .inl ⟨'b', by decide⟩
  case h_8 quote backslash _ _ _ _ _ h =>
    cases h
    split
    case isTrue visible =>
      exact .inr (.inl ⟨fun e => quote (e ▸ rfl), fun e => backslash (e ▸ rfl), visible.1,
        by omega, rfl⟩)
    case isFalse => exact .inr (.inr rfl)
  case h_9 h => cases h

section Reading

variable {start pos : Nat} {rest : List Char} {ps : List Point} {after : Cursor}

lemma halvesAt_letter {letter c : Char} (not_u : letter ≠ 'u')
    (stands : letterEscape? letter = some c)
    (behind : halvesAt start (pos + 2) rest = .ok (ps, after)) :
    halvesAt start pos ('\\' :: letter :: rest) = .ok (.char c :: ps, after) := by
  simp [halvesAt, not_u, stands, behind, before, Except.map]

lemma halvesAt_plain {c : Char} (not_quote : c ≠ '\x22') (not_backslash : c ≠ '\\')
    (visible : 0x20 ≤ c.toNat) (behind : halvesAt start (pos + 1) rest = .ok (ps, after)) :
    halvesAt start pos (c :: rest) = .ok (.char c :: ps, after) := by
  simp [halvesAt, not_backslash, Nat.not_lt.mpr visible, behind, before, Except.map]

lemma halvesAt_code {a b c d : Char} {code : Nat} (value : hexFour? a b c d = some code)
    (behind : halvesAt start (pos + 6) rest = .ok (ps, after)) :
    halvesAt start pos ('\\' :: 'u' :: a :: b :: c :: d :: rest) =
      .ok (pointOf code :: ps, after) := by
  -- the digits do not end the text, since what follows was read
  have more : rest.isEmpty = false := by
    cases rest with
    | nil => cases behind
    | cons _ _ => rfl
  simp only [halvesAt, more, value, behind]
  rfl

lemma halvesAt_escapeCode {code : Nat} (small : code < 0x10000)
    (behind : halvesAt start (pos + 6) rest = .ok (ps, after)) :
    halvesAt start pos (escapeCode code ++ rest) = .ok (pointOf code :: ps, after) := by
  obtain ⟨a, b, c, d, digits, value⟩ := hexFour?_hexDigits small
  rw [escapeCode, digits]
  exact halvesAt_code value behind

lemma halvesAt_escapeNumber (c : Char)
    (behind : halvesAt start (pos + (escapeNumber c.toNat).length) rest = .ok (ps, after)) :
    halvesAt start pos (escapeNumber c.toNat ++ rest) = .ok (halves c ++ ps, after) := by
  by_cases small : c.toNat < 0x10000
  · have single : escapeNumber c.toNat = escapeCode c.toNat := if_pos small
    rw [single] at behind ⊢
    rw [halvesAt_escapeCode small behind, pointOf_toNat, halves, if_pos small,
      List.singleton_append]
  · rw [escapeNumber_beyond small] at behind ⊢
    have high : highHalf c < 0x10000 := by have := highHalf_range small; omega
    have low : lowHalf c < 0x10000 := by have := lowHalf_range c; omega
    -- the second half is read from behind the first
    have second : halvesAt start (pos + 6) (escapeCode (lowHalf c) ++ rest) = _ :=
      halvesAt_escapeCode low behind
    rw [List.append_assoc, halvesAt_escapeCode high second, pointOf_highHalf small,
      pointOf_lowHalf, halves, if_neg small, List.cons_append, List.singleton_append]

/-- What is read of a position that was written, put before what is read behind it. -/
lemma halvesAt_escapePoint {p : Point}
    (half : ∀ code, p = .half code → (isHighHalf code || isLowHalf code) = true)
    (behind : halvesAt start (pos + (escapePoint p).length) rest = .ok (ps, after)) :
    halvesAt start pos (escapePoint p ++ rest) = .ok (halvesOf p ++ ps, after) := by
  cases p with
  | half code =>
    have small := lt_of_half (half code rfl)
    have written : escapePoint (.half code) = escapeCode code := if_pos small
    rw [written] at behind ⊢
    rw [halvesAt_escapeCode small behind, pointOf, if_pos (half code rfl), halvesOf,
      List.singleton_append]
  | char c =>
    rw [halvesOf]
    rcases escapePoint_cases c with ⟨letter, not_u, stands, small, written⟩ |
      ⟨not_quote, not_backslash, visible, small, written⟩ | written
    · rw [written] at behind ⊢
      rw [halves, if_pos small]
      exact halvesAt_letter not_u stands behind
    · rw [written] at behind ⊢
      rw [halves, if_pos small]
      exact halvesAt_plain not_quote not_backslash visible behind
    · rw [written] at behind ⊢
      exact halvesAt_escapeNumber c behind

/-! ### A whole text -/

lemma halvesAt_written {s : List Point}
    (halves : ∀ code, .half code ∈ s → (isHighHalf code || isLowHalf code) = true)
    (start pos : Nat) (rest : List Char) :
    halvesAt start pos (s.flatMap escapePoint ++ '\x22' :: rest) =
      .ok (s.flatMap halvesOf, ⟨pos + (s.flatMap escapePoint).length + 1, rest⟩) := by
  induction s generalizing pos with
  | nil => rfl
  | cons p s ih =>
    rw [List.flatMap_cons, List.flatMap_cons, List.append_assoc, List.length_append,
      ← Nat.add_assoc]
    refine halvesAt_escapePoint (fun code same => halves code (same ▸ List.mem_cons_self)) ?_
    exact ih (fun code later => halves code (List.mem_cons_of_mem p later)) _

/-- What is a half is read as one. -/
lemma half_of_pointOf {code code' : Nat} (h : .half code = pointOf code') :
    (isHighHalf code || isLowHalf code) = true := by
  unfold pointOf at h
  split at h
  case isTrue half => exact Point.half.inj h ▸ half
  case isFalse => cases h

/-- The halves in what is read of a text are halves. -/
lemma half_of_halvesAt {cs : List Char} {r : List Point × Cursor}
    (h : halvesAt start pos cs = .ok r) {code : Nat} (mem : .half code ∈ r.1) :
    (isHighHalf code || isLowHalf code) = true := by
  have more {p : Point} {x : Except ReadError (List Point × Cursor)} {r : List Point × Cursor}
      (h : before p x = .ok r) (mem : .half code ∈ r.1)
      (later : ∀ {qs}, x = .ok qs → .half code ∈ qs.1 → (isHighHalf code || isLowHalf code) = true)
      (first : .half code = p → (isHighHalf code || isLowHalf code) = true) :
      (isHighHalf code || isLowHalf code) = true := by
    obtain ⟨qs, behind, rfl⟩ := map_eq_ok h
    exact (List.mem_cons.mp mem).elim first (later behind)
  fun_induction halvesAt start pos cs generalizing r with
  | case2 pos rest =>
    cases h
    cases mem
  | case5 pos a b c d rest some_more code' value ih => exact more h mem ih half_of_pointOf
  | case8 pos letter rest no_digits not_u e stands ih => exact more h mem ih nofun
  | case11 pos c rest quote single _ _ escape visible ih => exact more h mem ih nofun
  | _ => cases h

end Reading

/-- The reader takes exactly these characters, from behind an opening quote, for the text. -/
def SpellsText (cs : List Char) (s : List Point) : Prop :=
  ∀ start pos rest, textAt start pos (cs ++ rest) = .ok (s, ⟨pos + cs.length, rest⟩)

/-- A text is read back from behind its opening quote, up to its closing one. -/
theorem spellsText_written {s : List Point} (settled : Settled s) :
    SpellsText (s.flatMap escapePoint ++ ['\x22']) s := by
  intro start pos rest
  simp only [List.append_assoc, List.singleton_append, textAt, halvesAt_written settled.halves,
    Except.map, joinPairs_flatMap_halvesOf, settled.joined, List.length_append,
    List.length_singleton, Nat.add_assoc]

/-- What is read of a text is settled. -/
theorem settled_of_textAt {start pos : Nat} {cs : List Char} {r : List Point × Cursor}
    (h : textAt start pos cs = .ok r) : Settled r.1 := by
  obtain ⟨qs, halves, rfl⟩ := map_eq_ok h
  exact ⟨fun code mem => half_of_halvesAt halves (mem_of_mem_joinPairs mem), joinPairs_joinPairs _⟩

lemma SpellsText.settled {cs : List Char} {s : List Point} (h : SpellsText cs s) : Settled s :=
  settled_of_textAt (h 0 0 [])

end TargetAssembly.Json

namespace TargetAssembly.Json

/-!
## Spelling

Characters spell a value when the reader takes exactly them for it, wherever they stand and
whatever follows, so long as that cannot prolong a number.  Words and texts are spelled as they are
written.  A text that spells a value is read as that value, with or without blanks around it.
-/

open Text (Point)

/-! ### What may follow a value -/

/-- Whether a character can prolong a number in front of it. -/
def prolongs (c : Char) : Bool := c.isDigit || c == '.' || c == 'e' || c == 'E'

/-- A text that does not prolong a number in front of it. -/
def Ends (rest : List Char) : Prop := ∀ c ∈ rest.head?, prolongs c = false

lemma ends_nil : Ends [] := by
  intro c hc
  cases hc

lemma ends_cons {c : Char} (hc : prolongs c = false) (rest : List Char) : Ends (c :: rest) := by
  intro d hd
  cases hd
  exact hc

/-! ### Blanks -/

/-- Characters that may stand between the parts of a text. -/
def Blank (bs : List Char) : Prop := ∀ b ∈ bs, isBlank b = true

lemma blank_nil : Blank [] := by
  intro b hb
  cases hb

lemma blank_space : Blank [' '] := by
  simp [Blank, isBlank]

lemma isBlank_iff {c : Char} : isBlank c = true ↔ c = ' ' ∨ c = '\t' ∨ c = '\n' ∨ c = '\r' := by
  simp only [isBlank, Bool.or_eq_true, beq_iff_eq, or_assoc]

lemma ends_blank {bs rest : List Char} (blank : Blank bs) (ends : Ends rest) :
    Ends (bs ++ rest) := by
  cases bs with
  | nil => exact ends
  | cons b bs =>
    refine ends_cons ?_ _
    rcases isBlank_iff.mp (blank b List.mem_cons_self) with rfl | rfl | rfl | rfl <;> decide

/-- A text that does not start with a blank. -/
def Solid (rest : List Char) : Prop := ∀ c ∈ rest.head?, isBlank c = false

lemma solid_cons {c : Char} (hc : isBlank c = false) (rest : List Char) : Solid (c :: rest) := by
  intro d hd
  cases hd
  exact hc

/-- The place after some blanks. -/
lemma skipBlanks_append {bs rest : List Char} (blank : Blank bs) (solid : Solid rest) (pos : Nat) :
    Cursor.skipBlanks ⟨pos, bs ++ rest⟩ = ⟨pos + bs.length, rest⟩ := by
  simp only [Cursor.skipBlanks, Cursor.skip]
  rw [List.takeWhile_append_of_pos blank, List.dropWhile_append_of_pos blank]
  cases rest with
  | nil => rw [List.takeWhile_nil, List.dropWhile_nil, List.append_nil]
  | cons c rest =>
    have stop : ¬ isBlank c = true := by simp [solid c rfl]
    rw [List.takeWhile_cons_of_neg stop, List.dropWhile_cons_of_neg stop, List.append_nil]

/-! ### Spelling -/

/-- The reader takes exactly these characters for the value. -/
def Spells (cs : List Char) (v : Json) : Prop :=
  ∀ fuel pos rest, cs.length ≤ fuel → Ends rest →
    valueAt fuel ⟨pos, cs ++ rest⟩ = .ok (v, ⟨pos + cs.length, rest⟩)

lemma valueAt_no_start {c : Char} (no : isBlank c = true ∨ c = ']' ∨ c = '\ufeff') (fuel pos : Nat)
    (rest : List Char) : valueAt fuel ⟨pos, c :: rest⟩ = fail .expectingValue pos := by
  cases fuel with
  | zero => rfl
  | succ fuel =>
    rw [isBlank_iff] at no
    rcases no with (rfl | rfl | rfl | rfl) | rfl | rfl <;> rfl

/-- No value starts with a blank, a closing bracket or a byte order mark. -/
lemma Spells.exists_head {cs : List Char} {v : Json} (h : Spells cs v) :
    ∃ c tail, cs = c :: tail ∧ isBlank c = false ∧ c ≠ ']' ∧ c ≠ '\ufeff' := by
  cases cs with
  | nil => cases h 0 0 [] (Nat.le_refl 0) ends_nil
  | cons c tail =>
    have taken := h (tail.length + 1) 0 [] (Nat.le_refl _) ends_nil
    have starts : ¬ (isBlank c = true ∨ c = ']' ∨ c = '\ufeff') := by
      intro no
      rw [List.cons_append, valueAt_no_start no] at taken
      cases taken
    rw [not_or, not_or, Bool.not_eq_true] at starts
    exact ⟨c, tail, rfl, starts⟩

lemma Spells.solid {cs : List Char} {v : Json} (h : Spells cs v) (rest : List Char) :
    Solid (cs ++ rest) := by
  obtain ⟨c, tail, rfl, solid, -⟩ := h.exists_head
  exact solid_cons solid _

lemma Spells.no_mark {cs : List Char} {v : Json} (h : Spells cs v) (rest : List Char) :
    (cs ++ rest).head? ≠ some '\ufeff' := by
  obtain ⟨c, tail, rfl, -, -, no_mark⟩ := h.exists_head
  exact fun mark => no_mark (Option.some.inj mark)

/-! ### Words and texts -/

/-- A word spells its value. -/
lemma spells_word {w : List Char × Json} (h : w ∈ words) : Spells w.1 w.2 := by
  intro fuel pos rest enough _
  simp only [words, List.mem_cons, List.not_mem_nil, or_false] at h
  rcases h with rfl | rfl | rfl | rfl | rfl | rfl
  all_goals
    cases fuel with
    | zero => cases enough
    | succ fuel => rfl

lemma spells_null : Spells "null".toList null := by
  have word : ("null".toList, null) ∈ words := by simp [words]
  exact spells_word word

lemma spells_bool (b : Bool) : Spells (if b then "true" else "false").toList (bool b) := by
  have word : ((if b then "true" else "false").toList, bool b) ∈ words := by
    cases b <;> simp [words]
  exact spells_word word

lemma spells_quoted {cs : List Char} {s : List Point} (h : SpellsText cs s) :
    Spells ('\x22' :: cs) (text s) := by
  intro fuel pos rest enough _
  cases fuel with
  | zero => cases enough
  | succ fuel =>
    simp only [List.cons_append, valueAt, h pos (pos + 1) rest, Except.map, List.length_cons,
      Nat.add_assoc, Nat.add_comm 1]

lemma spells_text {s : List Point} (settled : Settled s) : Spells (writtenText s) (text s) :=
  spells_quoted (spellsText_written settled)

/-! ### Whole texts -/

lemma skipBlanks_blank {bs : List Char} (blank : Blank bs) (pos : Nat) :
    (Cursor.skipBlanks ⟨pos, bs⟩).rest = [] :=
  List.dropWhile_eq_nil_iff.mpr blank

/-- A blank is no byte order mark. -/
lemma no_mark_append {bs rest : List Char} (blank : Blank bs)
    (no_mark : rest.head? ≠ some '\ufeff') :
    (bs ++ rest).head? ≠ some '\ufeff' := by
  cases bs with
  | nil => exact no_mark
  | cons b bs =>
    have first : isBlank b = true := blank b List.mem_cons_self
    rintro ⟨⟩
    cases first

/-- What the reader does behind the value: nothing but blanks may follow. -/
def endBehind (r : Json × Cursor) : Except ReadError Json :=
  let c := r.2.skipBlanks
  if c.rest.isEmpty then .ok r.1 else fail .extraData c.position

/-- Reading starts behind the blanks. -/
lemma read_append {bs rest : List Char} (blank : Blank bs) (solid : Solid rest)
    (no_mark : (bs ++ rest).head? ≠ some '\ufeff') :
    read (bs ++ rest) =
      valueAt (2 * (bs ++ rest).length + 2) ⟨0 + bs.length, rest⟩ >>= endBehind := by
  rw [read, if_neg no_mark, skipBlanks_append blank solid]
  rfl

/-- A text that spells a value, with blanks around it, is read as the value. -/
theorem read_of_spells {before cs after : List Char} {v : Json} (blankBefore : Blank before)
    (spelled : Spells cs v) (blankAfter : Blank after) : read (before ++ cs ++ after) = .ok v := by
  have ends : Ends after := by
    simpa using ends_blank blankAfter ends_nil
  have taken := spelled (2 * (before ++ (cs ++ after)).length + 2) (0 + before.length) after
    (by simp only [List.length_append]; omega) ends
  rw [List.append_assoc, read_append blankBefore (spelled.solid after)
    (no_mark_append blankBefore (spelled.no_mark after)), taken]
  simp only [bind, Except.bind, endBehind, skipBlanks_blank blankAfter, List.isEmpty_nil, if_true]

end TargetAssembly.Json
