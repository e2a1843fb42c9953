import Mathlib.Algebra.Group.Nat.Defs
import Mathlib.Data.List.Basic
import Mathlib.Tactic.Lemma
import Mathlib.Tactic.SplitIfs
import TargetAssembly.Text.Quoted

/-!
# Quoted texts tell texts apart

A character inside quotes is written as itself, or with a backslash and a letter, or with a
backslash, a letter and as many hexadecimal digits as the letter says.  So no spelling of a
character begins with that of another one, and what stands between quotes can be read in one way
only: `quoted_injective`.
-/

namespace TargetAssembly.Text

/-! ## Digits -/

lemma hexDigit_inj : ∀ m < 16, ∀ n < 16, hexDigit m = hexDigit n → m = n := by
  decide

lemma hexDigits_inj {width m n : Nat} (hm : m < 16 ^ width) (hn : n < 16 ^ width)
    (same : hexDigits width m = hexDigits width n) : m = n := by
  induction width generalizing m n with
  | zero => omega
  | succ width ih =>
    obtain ⟨high, low⟩ := List.append_inj' same rfl
    have highs : m / 16 = n / 16 := ih (by omega) (by omega) high
    have lows : m % 16 = n % 16 :=
      hexDigit_inj _ (Nat.mod_lt _ (by decide)) _ (Nat.mod_lt _ (by decide)) (by simpa using low)
    omega

/-! ## Spellings of a character -/

/-- The characters that are written with a letter behind a backslash, and their letters. -/
def shortEscapes (mark : Char) : List (Char × Char) :=
  [(mark, mark), ('\\', '\\'), ('\n', 'n'), ('\r', 'r'), ('\t', 't')]

/-- The letters that announce a number, and how many digits it has. -/
def numberLetters : List (Char × Nat) := [('x', 2), ('u', 4), ('U', 8)]

/-- The spellings of a character inside quotes. -/
inductive Spells (mark : Char) : Char → List Char → Prop
  | itself {c : Char} (plain : c ≠ '\\') : Spells mark c [c]
  | short {c letter : Char} (known : (c, letter) ∈ shortEscapes mark) :
    Spells mark c ['\\', letter]
  | number {c letter : Char} {width : Nat} (known : (letter, width) ∈ numberLetters)
    (fits : c.toNat < 16 ^ width) : Spells mark c ('\\' :: letter :: hexDigits width c.toNat)

variable {mark : Char}

lemma spells_quotedPoint (mark : Char) (shown : Nat → Bool) (c : Char) :
    Spells mark c (quotedPoint mark shown (.char c)) := by
  have bound : c.toNat < 16 ^ 8 := by
    have scalar : c.toNat < 0xd800 ∨ 0xdfff < c.toNat ∧ c.toNat < 0x110000 := c.valid
    omega
  simp only [quotedPoint, numberEscape]
  split_ifs with h₁ h₂ h₃ h₄ h₅ h₆ h₇
  · exact .short (by rcases h₁ with rfl | rfl <;> simp [shortEscapes])
  · exact .short (by simp [shortEscapes, h₂])
  · exact .short (by simp [shortEscapes, h₃])
  · exact .short (by simp [shortEscapes, h₄])
  · exact .itself fun h => h₁ (.inr h)
  · exact .number (by decide) h₆
  · exact .number (by decide) h₇
  · exact .number (by decide) bound

lemma width_unique :
    ∀ x ∈ numberLetters, ∀ y ∈ numberLetters, x.1 = y.1 → x.2 = y.2 := by
  decide

lemma Spells.ne_nil {c : Char} {s : List Char} (h : Spells mark c s) : s ≠ [] := by
  cases h <;> simp

section

variable (known : mark ∈ ['\x22', '\x27'])

include known

/-- The letter of a short escape is that of one character only, and announces no number. -/
lemma shortEscapes_distinct : ∀ x ∈ shortEscapes mark,
    (∀ y ∈ shortEscapes mark, x.2 = y.2 → x.1 = y.1) ∧ ∀ y ∈ numberLetters, x.2 ≠ y.1 := by
  simp only [List.mem_cons, List.not_mem_nil, or_false] at known
  rcases known with rfl | rfl <;> decide

/-- A text begins with the spelling of one character only. -/
lemma Spells.unique {c d : Char} {s t u v : List Char} (hc : Spells mark c s) (hd : Spells mark d t)
    (same : s ++ u = t ++ v) : c = d ∧ u = v := by
  cases hc with
  | itself plain =>
    cases hd with
    | itself => simpa using same
    | short | number => exact absurd (List.cons.inj same).1 plain
  | short hc =>
    cases hd with
    | itself plain => exact absurd (List.cons.inj same).1.symm plain
    | short hd =>
      obtain ⟨letters, rest⟩ := List.cons.inj (List.cons.inj same).2
      exact ⟨(shortEscapes_distinct known _ hc).1 _ hd letters, rest⟩
    | number hd =>
      have letters := (List.cons.inj (List.cons.inj same).2).1
      exact absurd letters ((shortEscapes_distinct known _ hc).2 _ hd)
  | number hc fits =>
    cases hd with
    | itself plain => exact absurd (List.cons.inj same).1.symm plain
    | short hd =>
      have letters := (List.cons.inj (List.cons.inj same).2).1
      exact absurd letters.symm ((shortEscapes_distinct known _ hd).2 _ hc)
    | number hd fits' =>
      obtain ⟨letters, rest⟩ := List.cons.inj (List.cons.inj same).2
      obtain rfl := width_unique _ hc _ hd letters
      obtain ⟨digits, rest⟩ := List.append_inj rest (by simp)
      exact ⟨Char.toNat_inj.mp (hexDigits_inj fits fits' digits), rest⟩

/-! ## Whole texts -/

/-- What is written inside quotes can be read in one way only. -/
lemma quotedChars_inj {shown : Nat → Bool} {cs ds : List Char}
    (same : cs.flatMap (fun c => quotedPoint mark shown (.char c)) =
      ds.flatMap fun d => quotedPoint mark shown (.char d)) : cs = ds := by
  induction cs generalizing ds with
  | nil =>
    cases ds with
    | nil => rfl
    | cons d ds =>
      have empty := (List.append_eq_nil_iff.mp same.symm).1
      exact absurd empty (spells_quotedPoint mark shown d).ne_nil
  | cons c cs ih =>
    cases ds with
    | nil =>
      have empty := (List.append_eq_nil_iff.mp same).1
      exact absurd empty (spells_quotedPoint mark shown c).ne_nil
    | cons d ds =>
      obtain ⟨rfl, rest⟩ := (spells_quotedPoint mark shown c).unique known
        (spells_quotedPoint mark shown d) same
      rw [ih rest]

end

lemma quoteMark_mem (codes : List Nat) : quoteMark codes ∈ ['\x22', '\x27'] := by
  rw [quoteMark]
  split_ifs <;> simp

lemma quotedWith_ofString (shown : Nat → Bool) (s : String) :
    quotedWith shown (Point.ofString s) =
      quoteMark (s.toList.map Char.toNat) ::
        s.toList.flatMap
            (fun c => quotedPoint (quoteMark (s.toList.map Char.toNat)) shown (.char c)) ++
          [quoteMark (s.toList.map Char.toNat)] := by
  have codes : (Point.ofString s).map Point.code = s.toList.map Char.toNat := List.map_map
  rw [quotedWith, codes, Point.ofString, Point.ofChars, List.flatMap_map]

/-- Different texts are different in quotes. -/
theorem quoted_injective : Function.Injective quoted := by
  intro s t same
  have chars := String.ofList_injective same
  rw [quotedWith_ofString, quotedWith_ofString] at chars
  obtain ⟨marks, rest⟩ := List.cons.inj chars
  rw [marks] at rest
  have inside := quotedChars_inj (quoteMark_mem _) (List.append_inj_left' rest rfl)
  exact String.toList_inj.mp inside

end TargetAssembly.Text
