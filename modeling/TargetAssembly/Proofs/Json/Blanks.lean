import TargetAssembly.Proofs.Json.Taken

/-!
# Blanks that count for nothing

Blanks may stand around every part of a text, but in a quoted text they are part of it.
`withoutBlanks` drops those that stand outside of quotes.  What is left of characters means what
they meant (`Means.withoutBlanks`), so a text that is read as a value is read as this value without
the blanks too, and any two texts that are read are read alike if they differ in such blanks alone
(`read_congr_blanks`).  The proof goes along the grammar: a value, a list of parts or a member
leaves the same characters whatever stands behind it.
-/

namespace TargetAssembly.Json

open Text (Point)

/-- A text without the blanks that stand outside of quotes.  It starts inside of them if it is
`quoted`; there a backslash takes the character behind it along. -/
def withoutBlanks : (quoted : Bool) → List Char → List Char
  | _, [] => []
  | true, '\\' :: c :: cs => '\\' :: c :: withoutBlanks true cs
  | true, c :: cs => c :: withoutBlanks (c != '\x22') cs
  | false, c :: cs =>
    if isBlank c then withoutBlanks false cs else c :: withoutBlanks (c == '\x22') cs

/-! ## What is left of characters -/

/-- These characters are left of others, whatever follows. -/
def Leaves (cs ds : List Char) : Prop :=
  ∀ rest, withoutBlanks false (cs ++ rest) = ds ++ withoutBlanks false rest

/-- Characters of which all are left, since none is a blank or a quote. -/
def Plain (cs : List Char) : Prop := ∀ c ∈ cs, isBlank c = false ∧ c ≠ '\x22'

section Leaves

variable {cs ds cs' ds' : List Char}

lemma Leaves.append (h : Leaves cs ds) (h' : Leaves cs' ds') : Leaves (cs ++ cs') (ds ++ ds') := by
  intro rest
  rw [List.append_assoc, h, h', List.append_assoc]

lemma Leaves.gap {bs : List Char} (blank : Blank bs) (h : Leaves cs ds) :
    Leaves (bs ++ cs) ds := by
  intro rest
  induction bs with
  | nil => exact h rest
  | cons b bs ih =>
    obtain ⟨first, others⟩ := List.forall_mem_cons.mp blank
    rw [← ih others, List.cons_append, List.cons_append, withoutBlanks, if_pos first]

lemma leaves_nil : Leaves [] [] := fun _ => rfl

lemma Leaves.cons {c : Char} (plain : isBlank c = false ∧ c ≠ '\x22') (h : Leaves cs ds) :
    Leaves (c :: cs) (c :: ds) := by
  intro rest
  rw [List.cons_append, withoutBlanks, if_neg (by simp [plain.1]), beq_false_of_ne plain.2, h rest,
    List.cons_append]

lemma Plain.leaves (plain : Plain cs) : Leaves cs cs := by
  induction cs with
  | nil => exact leaves_nil
  | cons c cs ih =>
    obtain ⟨first, others⟩ := List.forall_mem_cons.mp plain
    exact (ih others).cons first

end Leaves

/-! ## Words, numbers and texts -/

lemma plain_word {w : List Char × Json} (h : w ∈ words) : Plain w.1 := by
  simp only [words, List.mem_cons, List.not_mem_nil, or_false] at h
  rcases h with rfl | rfl | rfl | rfl | rfl | rfl <;> simp [Plain, isBlank]

lemma plain_digits {ds : List Char} (digits : ∀ d ∈ ds, d.isDigit = true) : Plain ds := by
  intro d hd
  have digit := digits d hd
  refine ⟨?_, ne_of_isDigit digit rfl⟩
  rw [Bool.eq_false_iff, Ne, isBlank_iff]
  rintro (rfl | rfl | rfl | rfl) <;> cases digit

lemma Plain.append {cs ds : List Char} (h : Plain cs) (h' : Plain ds) : Plain (cs ++ ds) := by
  intro c hc
  exact (List.mem_append.mp hc).elim (h c) (h' c)

lemma Numeral.Before.plain {n : Numeral} {rest : List Char} (found : n.Before rest) :
    Plain n.chars := by
  have whole : Plain n.whole := by
    rw [← found.whole]
    exact plain_digits isDigit_of_mem_wholeDigits
  have point : Plain (pointPart n.fraction) := by
    have fraction : Plain n.fraction := by
      rw [← found.fraction]
      exact plain_digits isDigit_of_mem_fractionDigits
    unfold pointPart
    split_ifs
    · exact nofun
    · exact List.forall_mem_cons.mpr ⟨by decide, fraction⟩
  have exponent : Plain n.exponent := by
    obtain ⟨-, none⟩ | ⟨letter, sign, digits, split, isLetter, signed, -, each, -⟩ :=
      exponent_cases found.power found.length
    · rw [none]
      exact nofun
    · have first : isBlank letter = false ∧ letter ≠ '\x22' := by
        rcases isLetter with rfl | rfl <;> decide
      have plainSign : Plain sign := by
        rcases signed with rfl | rfl | rfl <;> simp [Plain, isBlank]
      rw [split]
      exact List.forall_mem_cons.mpr ⟨first, plainSign.append (plain_digits each)⟩
  refine Plain.append ?_ (whole.append (point.append exponent))
  cases n.negative <;> simp [Plain, isBlank]

/-- A hexadecimal digit neither ends a text nor takes the next character along. -/
lemma ne_of_digit? {c : Char} {n : Nat} (h : Text.Hex.digit? c = some n) :
    c ≠ '\x22' ∧ c ≠ '\\' := by
  constructor
  all_goals
    rintro rfl
    cases h

lemma withoutBlanks_quoted {c : Char} (plain : c ≠ '\x22' ∧ c ≠ '\\') (cs : List Char) :
    withoutBlanks true (c :: cs) = c :: withoutBlanks true cs := by
  rw [withoutBlanks, bne_iff_ne.mpr plain.1]
  exact fun _ _ first _ => plain.2 first

lemma withoutBlanks_code {a b c d : Char} {code : Nat} (value : hexFour? a b c d = some code)
    (cs : List Char) : withoutBlanks true ('\\' :: 'u' :: a :: b :: c :: d :: cs) =
      '\\' :: 'u' :: a :: b :: c :: d :: withoutBlanks true cs := by
  simp only [hexFour?, Option.bind_eq_bind, Option.bind_eq_some_iff] at value
  obtain ⟨_, first, _, second, _, third, _, fourth, -⟩ := value
  rw [withoutBlanks, withoutBlanks_quoted (ne_of_digit? first),
    withoutBlanks_quoted (ne_of_digit? second), withoutBlanks_quoted (ne_of_digit? third),
    withoutBlanks_quoted (ne_of_digit? fourth)]

/-- What was read of a text that `cs` starts with is left of it. -/
def LeftOf (cs : List Char) (r : List Point × Cursor) : Prop :=
  ∃ used, cs = used ++ r.2.rest ∧ withoutBlanks true cs = used ++ withoutBlanks false r.2.rest

/-- Characters for one position in front of those for others. -/
lemma left_more (front : List Char) {cs : List Char} {p : Point}
    {r : Except ReadError (List Point × Cursor)} {ps : List Point × Cursor}
    (step : withoutBlanks true (front ++ cs) = front ++ withoutBlanks true cs)
    (more : ∀ {qs}, r = .ok qs → LeftOf cs qs) (h : before p r = .ok ps) :
    LeftOf (front ++ cs) ps := by
  obtain ⟨qs, behind, rfl⟩ := map_eq_ok h
  obtain ⟨used, split, left⟩ := more behind
  refine ⟨front ++ used, ?_, ?_⟩
  · rw [List.append_assoc]
    exact congrArg _ split
  · rw [step, left, List.append_assoc]

lemma left_halves {start pos : Nat} {cs : List Char} {r : List Point × Cursor}
    (h : halvesAt start pos cs = .ok r) : LeftOf cs r := by
  fun_induction halvesAt start pos cs generalizing r with
  | case2 pos rest =>
    cases h
    exact ⟨['\x22'], rfl, rfl⟩
  | case5 pos a b d e rest some_more code value ih =>
    exact left_more ['\\', 'u', a, b, d, e] (withoutBlanks_code value rest) ih h
  | case8 pos letter rest no_digits not_u e stands ih =>
    exact left_more ['\\', letter] rfl ih h
  | case11 pos d rest quote single _ _ escape visible ih =>
    exact left_more [d] (withoutBlanks_quoted ⟨quote, ne_backslash single escape⟩ rest) ih h
  | _ => cases h

/-- A quoted text is left as it is. -/
lemma leaves_text {cs : List Char} {s : List Point} (spelled : SpellsText cs s) :
    Leaves ('\x22' :: cs) ('\x22' :: cs) := by
  intro rest
  obtain ⟨qs, halves, same⟩ := map_eq_ok (spelled 0 0 rest)
  obtain ⟨used, split, left⟩ := left_halves halves
  obtain ⟨-, behind⟩ := Prod.mk.inj same
  rw [← behind] at split left
  obtain rfl := List.append_cancel_right split
  exact congrArg _ left

/-! ## Values and their parts -/

/-- What is left of characters means what they mean. -/
theorem Means.withoutBlanks {cs : List Char} {m : Meaning} (h : Means cs m) :
    ∃ ds, Means ds m ∧ Leaves cs ds := by
  induction h with
  | word h => exact ⟨_, .word h, (plain_word h).leaves⟩
  | number found value => exact ⟨_, .number found value, found.plain.leaves⟩
  | text spelled => exact ⟨_, .text spelled, leaves_text spelled⟩
  | noItems blank =>
    exact ⟨_, .noItems blank_nil, ((leaves_nil.cons (by decide)).gap blank).cons (by decide)⟩
  | list blank _ ih =>
    obtain ⟨ds, items, left⟩ := ih
    exact ⟨_, .list blank_nil items, (left.gap blank).cons (by decide)⟩
  | lastItem _ blank ih =>
    obtain ⟨ds, item, left⟩ := ih
    exact ⟨_, .lastItem item blank_nil, left.append ((leaves_nil.cons (by decide)).gap blank)⟩
  | moreItems _ blankLeft blankRight _ item others =>
    obtain ⟨ds, item, left⟩ := item
    obtain ⟨es, others, left'⟩ := others
    exact ⟨_, .moreItems item blank_nil blank_nil others,
      left.append (((left'.gap blankRight).cons (by decide)).gap blankLeft)⟩
  | noMembers blank =>
    exact ⟨_, .noMembers blank_nil, ((leaves_nil.cons (by decide)).gap blank).cons (by decide)⟩
  | object blank _ ih =>
    obtain ⟨ds, members, left⟩ := ih
    exact ⟨_, .object blank_nil members, (left.gap blank).cons (by decide)⟩
  | member named blankLeft blankRight _ ih =>
    obtain ⟨ds, value, left⟩ := ih
    exact ⟨_, .member named blank_nil blank_nil value,
      (leaves_text named).append (((left.gap blankRight).cons (by decide)).gap blankLeft)⟩
  | lastMember _ blank ih =>
    obtain ⟨ds, member, left⟩ := ih
    exact ⟨_, .lastMember member blank_nil, left.append ((leaves_nil.cons (by decide)).gap blank)⟩
  | moreMembers _ blankLeft blankRight _ member others =>
    obtain ⟨ds, member, left⟩ := member
    obtain ⟨es, others, left'⟩ := others
    exact ⟨_, .moreMembers member blank_nil blank_nil others,
      left.append (((left'.gap blankRight).cons (by decide)).gap blankLeft)⟩

/-! ## Whole texts -/

/-- A text that is read as a value is read as it without its blanks. -/
theorem read_withoutBlanks {raw : List Char} {v : Json} (h : read raw = .ok v) :
    read (withoutBlanks false raw) = .ok v := by
  obtain ⟨before, cs, after, rfl, blankBefore, means, blankAfter⟩ := read_eq_ok_iff.mp h
  obtain ⟨ds, means, left⟩ := means.withoutBlanks
  have whole : withoutBlanks false (before ++ cs ++ after) = ds := by
    have all := (left.append (leaves_nil.gap blankAfter)).gap blankBefore []
    simpa [withoutBlanks] using all
  rw [whole]
  exact read_eq_ok_iff.mpr ⟨[], ds, [], by simp, blank_nil, means, blank_nil⟩

/-- Texts that are read are read alike if they differ in blanks alone. -/
theorem read_congr_blanks {raw raw' : List Char} {v v' : Json} (h : read raw = .ok v)
    (h' : read raw' = .ok v') (same : withoutBlanks false raw = withoutBlanks false raw') :
    v = v' := by
  have left := read_withoutBlanks h
  rw [same, read_withoutBlanks h'] at left
  exact (Except.ok.inj left).symm

end TargetAssembly.Json
