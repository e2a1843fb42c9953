import TargetAssembly.Proofs.Json.Text

/-!
# The parts of a numeral

A numeral is a sign, whole digits, digits behind a point and an exponent, of which all but the whole
digits may be missing.  The reader finds each part by looking at what is left of the text, so a part
that it finds in one text it finds in every other text that goes on with the same characters and
then with nothing that prolongs the part.  `exists_numeral` takes apart whatever is read as a
number, and `spells_numeral` says that the parts spell it.
-/

namespace TargetAssembly.Json

/-! ## Digits -/

/-- A text that does not start with a digit. -/
def NoDigit (rest : List Char) : Prop := ∀ c ∈ rest.head?, c.isDigit = false

lemma Ends.noDigit {rest : List Char} (ends : Ends rest) : NoDigit rest := by
  intro c hc
  have stop := ends c hc
  simp only [prolongs, Bool.or_eq_false_iff] at stop
  exact stop.1.1.1

/-- What does not prolong a number has neither a fraction nor an exponent in front. -/
lemma Ends.no_more {rest : List Char} (ends : Ends rest) :
    fractionDigits rest = [] ∧ exponent? rest = none := by
  cases rest with
  | nil => exact ⟨rfl, rfl⟩
  | cons c rest =>
    have stop : prolongs c = false := ends c rfl
    simp only [prolongs, Bool.or_eq_false_iff, beq_eq_false_iff_ne] at stop
    obtain ⟨⟨⟨-, point⟩, small⟩, large⟩ := stop
    refine ⟨?_, if_neg (not_or.mpr ⟨small, large⟩)⟩
    simp [fractionDigits, point]

lemma noDigit_cons {c : Char} (hc : c.isDigit = false) (rest : List Char) :
    NoDigit (c :: rest) := by
  intro d hd
  cases hd
  exact hc

lemma noDigit_dropWhile (cs : List Char) : NoDigit (cs.dropWhile Char.isDigit) := by
  intro c hc
  simpa [Option.mem_def.mp hc] using List.head?_dropWhile_not Char.isDigit cs

/-- Digits are taken whole in front of a text that does not go on with one. -/
lemma takeWhile_digits {ds rest : List Char} (digits : ∀ d ∈ ds, d.isDigit = true)
    (stop : NoDigit rest) : (ds ++ rest).takeWhile Char.isDigit = ds := by
  have none : rest.takeWhile Char.isDigit = [] := by
    cases rest with
    | nil => rfl
    | cons c rest => exact List.takeWhile_cons_of_neg (by simp [stop c rfl])
  rw [List.takeWhile_append_of_pos digits, none, List.append_nil]

lemma isDigit_of_mem_takeWhile {cs : List Char} :
    ∀ d ∈ cs.takeWhile Char.isDigit, d.isDigit = true :=
  fun _ => List.mem_takeWhile_imp

lemma ne_of_isDigit {c d : Char} (digit : d.isDigit = true) (other : c.isDigit = false) :
    d ≠ c := by
  rintro rfl
  rw [digit] at other
  cases other

/-! ## Whole digits -/

/-- Whole digits are a single zero, or digits of which the first is none. -/
lemma wholeDigits_cases (cs : List Char) :
    wholeDigits cs = [] ∨ (∃ rest, wholeDigits cs = ['0'] ∧ cs = '0' :: rest) ∨
      ∃ d ds rest, wholeDigits cs = d :: ds ∧ cs = d :: (ds ++ rest) ∧ d ≠ '0' ∧
        d.isDigit = true ∧ (∀ c ∈ ds, c.isDigit = true) ∧ NoDigit rest := by
  cases cs with
  | nil => exact .inl rfl
  | cons c rest =>
    rw [wholeDigits]
    split_ifs with zero digit
    · exact .inr (.inl ⟨rest, rfl, by rw [zero]⟩)
    · exact .inr (.inr ⟨c, rest.takeWhile Char.isDigit, rest.dropWhile Char.isDigit, rfl,
        by rw [List.takeWhile_append_dropWhile], zero, digit, isDigit_of_mem_takeWhile,
        noDigit_dropWhile rest⟩)
    · exact .inl rfl

lemma isDigit_of_mem_wholeDigits {cs : List Char} : ∀ d ∈ wholeDigits cs, d.isDigit = true := by
  rcases wholeDigits_cases cs with none | ⟨rest, zero, -⟩ |
    ⟨d, ds, rest, digits, -, -, digit, others, -⟩
  · rw [none]
    exact nofun
  · rw [zero]
    simp
  · rw [digits]
    exact List.forall_mem_cons.mpr ⟨digit, others⟩

/-- Whole digits are in front of the text that they are found in. -/
lemma wholeDigits_append_drop (cs : List Char) :
    wholeDigits cs ++ cs.drop (wholeDigits cs).length = cs := by
  rcases wholeDigits_cases cs with none | ⟨rest, zero, rfl⟩ | ⟨d, ds, rest, digits, rfl, -⟩
  · rw [none]
    rfl
  · rw [zero]
    rfl
  · rw [digits]
    simp

/-- Digits of which the first is no zero are whole digits. -/
lemma wholeDigits_digits {d : Char} {ds rest : List Char} (nonzero : d ≠ '0')
    (each : ∀ c ∈ d :: ds, c.isDigit = true) (stop : NoDigit rest) :
    wholeDigits (d :: ds ++ rest) = d :: ds := by
  obtain ⟨digit, others⟩ := List.forall_mem_cons.mp each
  rw [List.cons_append, wholeDigits, if_neg nonzero, if_pos digit, takeWhile_digits others stop]

/-- Whole digits that are found are found again. -/
lemma wholeDigits_again (cs : List Char) {rest : List Char} (stop : NoDigit rest) :
    wholeDigits (wholeDigits cs ++ rest) = wholeDigits cs := by
  rcases wholeDigits_cases cs with none | ⟨rest', zero, -⟩ |
    ⟨d, ds, rest', digits, -, nonzero, digit, others, -⟩
  · rw [none, List.nil_append]
    cases rest with
    | nil => rfl
    | cons c rest =>
      have no : c.isDigit = false := stop c rfl
      rw [wholeDigits, if_neg (by rintro rfl; cases no), if_neg (by simp [no])]
  · rw [zero]
    rfl
  · rw [digits]
    exact wholeDigits_digits nonzero (List.forall_mem_cons.mpr ⟨digit, others⟩) stop

lemma exists_digit_of_wholeDigits {cs : List Char} (some_digit : wholeDigits cs ≠ []) :
    ∃ d ds, wholeDigits cs = d :: ds ∧ d.isDigit = true := by
  rcases wholeDigits_cases cs with none | ⟨rest, zero, -⟩ | ⟨d, ds, rest, digits, -, -, digit, -⟩
  · exact absurd none some_digit
  · exact ⟨'0', [], zero, rfl⟩
  · exact ⟨d, ds, digits, digit⟩

/-! ## Digits behind a point -/

/-- A point and digits, if there are any. -/
def pointPart (fraction : List Char) : List Char :=
  if fraction.isEmpty then [] else '.' :: fraction

lemma pointPart_append_drop (cs : List Char) :
    pointPart (fractionDigits cs) ++ cs.drop (pointPart (fractionDigits cs)).length = cs := by
  unfold fractionDigits
  split
  case h_1 rest =>
    unfold pointPart
    split_ifs
    · rfl
    · exact congrArg ('.' :: ·) (List.prefix_iff_eq_append.mp (List.takeWhile_prefix _))
  case h_2 => rfl

lemma isDigit_of_mem_fractionDigits {cs : List Char} :
    ∀ d ∈ fractionDigits cs, d.isDigit = true := by
  unfold fractionDigits
  split
  case h_1 rest => exact isDigit_of_mem_takeWhile
  case h_2 => exact nofun

lemma fractionDigits_again (cs : List Char) {rest : List Char} (stop : NoDigit rest)
    (none : fractionDigits rest = []) :
    fractionDigits (pointPart (fractionDigits cs) ++ rest) = fractionDigits cs := by
  cases digits : fractionDigits cs with
  | nil => exact none
  | cons d ds =>
    have each : ∀ c ∈ d :: ds, c.isDigit = true := digits ▸ isDigit_of_mem_fractionDigits
    exact takeWhile_digits each stop

/-! ## Exponents -/

/-- The signs that may stand in front of the digits of an exponent. -/
def ExponentSign (sign : List Char) : Prop := sign = [] ∨ sign = ['-'] ∨ sign = ['+']

/-- The exponent of a sign and digits. -/
def exponentOf (sign digits : List Char) : Exponent :=
  ⟨1 + sign.length + digits.length,
    if sign = ['-'] then -(Text.digitsValue digits : Int) else Text.digitsValue digits⟩

/-- An exponent is read off its digits, whatever follows that is no digit. -/
lemma exponent?_parts {letter : Char} {sign digits rest : List Char}
    (exponent : letter = 'e' ∨ letter = 'E') (signed : ExponentSign sign)
    (some_digit : digits ≠ []) (each : ∀ d ∈ digits, d.isDigit = true) (stop : NoDigit rest) :
    exponent? (letter :: (sign ++ (digits ++ rest))) = some (exponentOf sign digits) := by
  have taken := takeWhile_digits each stop
  obtain ⟨d, ds, rfl⟩ := List.exists_cons_of_ne_nil some_digit
  have digit := each d List.mem_cons_self
  have minus : d ≠ '-' := ne_of_isDigit digit rfl
  have plus : d ≠ '+' := ne_of_isDigit digit rfl
  rw [List.cons_append] at taken
  rw [exponent?, if_pos exponent]
  rcases signed with rfl | rfl | rfl <;> simp [minus, plus, taken, exponentOf]

lemma exists_sign (cs : List Char) : ∃ sign tail, cs = sign ++ tail ∧ ExponentSign sign ∧
    (sign = [] → tail.head? ≠ some '-' ∧ tail.head? ≠ some '+') := by
  by_cases minus : cs.head? = some '-'
  · obtain ⟨tail, rfl⟩ := List.head?_eq_some_iff.mp minus
    exact ⟨['-'], tail, rfl, .inr (.inl rfl), nofun⟩
  · by_cases plus : cs.head? = some '+'
    · obtain ⟨tail, rfl⟩ := List.head?_eq_some_iff.mp plus
      exact ⟨['+'], tail, rfl, .inr (.inr rfl), nofun⟩
    · exact ⟨[], cs, rfl, .inl rfl, fun _ => ⟨minus, plus⟩⟩

/-- What is read as an exponent has the parts of one. -/
lemma exists_exponent {cs : List Char} {e : Exponent} (h : exponent? cs = some e) :
    ∃ letter sign digits rest, cs = letter :: (sign ++ (digits ++ rest)) ∧
      (letter = 'e' ∨ letter = 'E') ∧ ExponentSign sign ∧ digits ≠ [] ∧
      (∀ d ∈ digits, d.isDigit = true) ∧ e = exponentOf sign digits := by
  cases cs with
  | nil => cases h
  | cons letter cs =>
    by_cases exponent : letter = 'e' ∨ letter = 'E'
    · obtain ⟨sign, tail, rfl, signed, exact⟩ := exists_sign cs
      have split : tail.takeWhile Char.isDigit ++ tail.dropWhile Char.isDigit = tail :=
        List.takeWhile_append_dropWhile
      have some_digit : tail.takeWhile Char.isDigit ≠ [] := by
        intro none
        rw [exponent?, if_pos exponent] at h
        rcases signed with rfl | rfl | rfl <;> simp_all
      have read := exponent?_parts exponent signed some_digit isDigit_of_mem_takeWhile
        (noDigit_dropWhile tail)
      rw [split, h] at read
      exact ⟨letter, sign, _, tail.dropWhile Char.isDigit, by rw [split], exponent, signed,
        some_digit, isDigit_of_mem_takeWhile, Option.some.inj read⟩
    · rw [exponent?, if_neg exponent] at h
      cases h

lemma exponent_length_le (cs : List Char) :
    ((exponent? cs).map Exponent.length).getD 0 ≤ cs.length := by
  cases power : exponent? cs with
  | none => exact Nat.zero_le _
  | some e =>
    obtain ⟨letter, sign, digits, rest, rfl, -, -, -, -, rfl⟩ := exists_exponent power
    simp only [exponentOf, Option.map_some, Option.getD_some, List.length_cons, List.length_append]
    omega

/-- The characters of an exponent that is found in front of a text: none, or the parts of one. -/
lemma exponent_cases {exponent rest : List Char} {power : Option Exponent}
    (found : exponent? (exponent ++ rest) = power)
    (length : (power.map Exponent.length).getD 0 = exponent.length) :
    power = none ∧ exponent = [] ∨
      ∃ letter sign digits, exponent = letter :: (sign ++ digits) ∧
        (letter = 'e' ∨ letter = 'E') ∧ ExponentSign sign ∧ digits ≠ [] ∧
        (∀ d ∈ digits, d.isDigit = true) ∧ power = some (exponentOf sign digits) := by
  cases power with
  | none => exact .inl ⟨rfl, List.eq_nil_of_length_eq_zero length.symm⟩
  | some e =>
    obtain ⟨letter, sign, digits, tail, split, isLetter, signed, some_digit, each, rfl⟩ :=
      exists_exponent found
    have parts : exponent ++ rest = letter :: (sign ++ digits) ++ tail := by simpa using split
    refine .inr ⟨letter, sign, digits, List.append_inj_left parts ?_, isLetter, signed, some_digit,
      each, rfl⟩
    rw [← length]
    simp only [exponentOf, Option.map_some, Option.getD_some, List.length_cons, List.length_append]
    omega

/-- An exponent that is found is found again, and goes on neither with a digit nor with a point. -/
lemma exponent?_again {exponent rest rest' : List Char} {power : Option Exponent}
    (found : exponent? (exponent ++ rest) = power)
    (length : (power.map Exponent.length).getD 0 = exponent.length) (ends : Ends rest') :
    exponent? (exponent ++ rest') = power ∧ NoDigit (exponent ++ rest') ∧
      fractionDigits (exponent ++ rest') = [] := by
  obtain ⟨rfl, rfl⟩ | ⟨letter, sign, digits, rfl, isLetter, signed, some_digit, each, rfl⟩ :=
    exponent_cases found length
  · obtain ⟨noFraction, noExponent⟩ := ends.no_more
    exact ⟨noExponent, ends.noDigit, noFraction⟩
  · rw [List.cons_append, List.append_assoc]
    refine ⟨exponent?_parts isLetter signed some_digit each ends.noDigit, noDigit_cons ?_ _, ?_⟩
    · rcases isLetter with rfl | rfl <;> decide
    · rcases isLetter with rfl | rfl <;> rfl

/-! ## Numerals -/

/-- The parts of a numeral, the exponent both as it is written and as it is read. -/
structure Numeral where
  negative : Bool
  whole : List Char
  fraction : List Char
  exponent : List Char
  power : Option Exponent

namespace Numeral

/-- The characters of a numeral. -/
def chars (n : Numeral) : List Char :=
  (if n.negative then ['-'] else []) ++ (n.whole ++ (pointPart n.fraction ++ n.exponent))

/-- The value of a numeral, if it is not too long a whole number. -/
def value (n : Numeral) : Except ReadError Json :=
  if n.fraction.isEmpty && n.power.isNone then
    if Decimal.maxDigits < n.whole.length then .error (.tooManyDigits n.whole.length)
    else
      let w : Int := Text.digitsValue n.whole
      .ok (.int (if n.negative then -w else w))
  else
    let power := (n.power.map Exponent.value).getD 0 - n.fraction.length
    .ok (.float (Binary64.ofDecimal n.negative (Text.digitsValue (n.whole ++ n.fraction)) power))

/-- The reader finds these parts in front of a text. -/
structure Before (n : Numeral) (rest : List Char) : Prop where
  some_digit : n.whole ≠ []
  whole : wholeDigits (n.whole ++ (pointPart n.fraction ++ (n.exponent ++ rest))) = n.whole
  fraction : fractionDigits (pointPart n.fraction ++ (n.exponent ++ rest)) = n.fraction
  power : exponent? (n.exponent ++ rest) = n.power
  length : (n.power.map Exponent.length).getD 0 = n.exponent.length

lemma length_pointPart (fraction : List Char) :
    (pointPart fraction).length = if fraction.isEmpty then 0 else fraction.length + 1 := by
  unfold pointPart
  split_ifs <;> rfl

lemma chars_append (n : Numeral) (rest : List Char) :
    n.chars ++ rest = (if n.negative then ['-'] else []) ++
      (n.whole ++ (pointPart n.fraction ++ (n.exponent ++ rest))) := by
  simp only [chars, List.append_assoc]

lemma length_chars (n : Numeral) :
    n.chars.length = (if n.negative then 1 else 0) + n.whole.length +
      (pointPart n.fraction).length + n.exponent.length := by
  rw [chars]
  split_ifs <;>
    simp only [List.length_append, List.length_singleton, List.length_nil, Nat.add_assoc]

section Before

variable {n : Numeral} {rest : List Char}

lemma Before.exists_digit (h : n.Before rest) : ∃ d ds, n.whole = d :: ds ∧ d.isDigit = true := by
  have some_digit := h.some_digit
  rw [← h.whole] at some_digit ⊢
  exact exists_digit_of_wholeDigits some_digit

/-- A numeral is read up to its end. -/
lemma Before.numberAt (h : n.Before rest) (pos : Nat) :
    numberAt ⟨pos, n.chars ++ rest⟩ =
      n.value.map fun v => (v, ⟨pos + n.chars.length, rest⟩) := by
  obtain ⟨d, ds, first, digit⟩ := h.exists_digit
  have minus : d ≠ '-' := ne_of_isDigit digit rfl
  have sign : ((n.chars ++ rest).head? == some '-') = n.negative := by
    rw [chars_append]
    cases n.negative <;> simp [first, minus]
  have unsigned : (if n.negative then (n.chars ++ rest).drop 1 else n.chars ++ rest) =
      n.whole ++ (pointPart n.fraction ++ (n.exponent ++ rest)) := by
    rw [chars_append]
    cases n.negative <;> rfl
  have found : n.whole.isEmpty = false := by rw [first, List.isEmpty_cons]
  simp only [Json.numberAt, sign, unsigned, h.whole, found, List.drop_left, h.fraction,
    ← length_pointPart, h.power, h.length, length_chars, value]
  cases n.fraction.isEmpty && n.power.isNone with
  | false => simp [Except.map]
  | true =>
    simp
    split_ifs <;> simp [Except.map]

/-- The parts are found again in front of every text that does not prolong a number. -/
lemma Before.again (h : n.Before rest) {rest' : List Char} (ends : Ends rest') :
    n.Before rest' := by
  obtain ⟨power, noDigit, noFraction⟩ := exponent?_again h.power h.length ends
  have noDigit' : NoDigit (pointPart n.fraction ++ (n.exponent ++ rest')) := by
    unfold pointPart
    split_ifs
    · exact noDigit
    · exact noDigit_cons (by decide) _
  have whole := wholeDigits_again (n.whole ++ (pointPart n.fraction ++ (n.exponent ++ rest)))
    noDigit'
  have fraction := fractionDigits_again (pointPart n.fraction ++ (n.exponent ++ rest)) noDigit
    noFraction
  rw [h.whole] at whole
  rw [h.fraction] at fraction
  exact ⟨h.some_digit, whole, fraction, power, h.length⟩

end Before

end Numeral

/-- Where a number is read, a numeral is found. -/
lemma exists_numeral (pos : Nat) (cs : List Char) :
    numberAt ⟨pos, cs⟩ = fail .expectingValue pos ∨
      ∃ (n : Numeral) (rest : List Char), cs = n.chars ++ rest ∧ n.Before rest := by
  -- what is left of the text behind the sign, the whole digits and the digits behind a point
  generalize sign : (cs.head? == some '-') = negative
  obtain ⟨unsigned, split, behindSign⟩ : ∃ unsigned,
      cs = (if negative then ['-'] else []) ++ unsigned ∧
        (if negative then cs.drop 1 else cs) = unsigned := by
    refine ⟨_, ?_, rfl⟩
    cases negative with
    | false => rfl
    | true =>
      obtain ⟨tail, rfl⟩ := List.head?_eq_some_iff.mp (eq_of_beq sign)
      rfl
  by_cases none : wholeDigits unsigned = []
  · left
    simp only [numberAt, sign, behindSign, none, List.isEmpty_nil, if_true]
  right
  obtain ⟨afterWhole, whole⟩ : ∃ tail, wholeDigits unsigned ++ tail = unsigned :=
    ⟨_, wholeDigits_append_drop unsigned⟩
  obtain ⟨afterPoint, fraction⟩ :
      ∃ tail, pointPart (fractionDigits afterWhole) ++ tail = afterWhole :=
    ⟨_, pointPart_append_drop afterWhole⟩
  refine ⟨⟨negative, wholeDigits unsigned, fractionDigits afterWhole,
    afterPoint.take (((exponent? afterPoint).map Exponent.length).getD 0), exponent? afterPoint⟩,
    afterPoint.drop (((exponent? afterPoint).map Exponent.length).getD 0), ?_, ?_⟩
  · rw [Numeral.chars_append, List.take_append_drop, fraction, whole]
    exact split
  · constructor <;> dsimp only
    · exact none
    · rw [List.take_append_drop, fraction, whole]
    · rw [List.take_append_drop, fraction]
    · rw [List.take_append_drop]
    · rw [List.length_take, Nat.min_eq_left (exponent_length_le _)]

/-- No word starts like a number that is written in digits. -/
lemma word?_digits {d : Char} (digit : d.isDigit = true) (ds : List Char) :
    word? (d :: ds) = none ∧ word? ('-' :: d :: ds) = none := by
  have apart {c : Char} (other : c.isDigit = false) : c ≠ d := (ne_of_isDigit digit other).symm
  constructor <;>
    simp [word?, words, apart (c := 'n') rfl, apart (c := 't') rfl, apart (c := 'f') rfl,
      apart (c := 'N') rfl, apart (c := 'I') rfl, apart (c := '-') rfl]

lemma valueAt_other {c : Char} (text : c ≠ '\x22') (list : c ≠ '[') (object : c ≠ '\x7b')
    {rest : List Char} (word : word? (c :: rest) = none) (fuel pos : Nat) :
    valueAt (fuel + 1) ⟨pos, c :: rest⟩ = numberAt ⟨pos, c :: rest⟩ := by
  simp [valueAt, text, list, object, word]

/-- Where a numeral is found, a number is read. -/
lemma valueAt_numeral {n : Numeral} {rest : List Char} (found : n.Before rest) (fuel pos : Nat) :
    valueAt (fuel + 1) ⟨pos, n.chars ++ rest⟩ =
      n.value.map fun v => (v, ⟨pos + n.chars.length, rest⟩) := by
  obtain ⟨d, ds, first, digit⟩ := found.exists_digit
  rw [← found.numberAt pos, Numeral.chars_append, first, List.cons_append]
  cases n.negative with
  | false =>
    exact valueAt_other (ne_of_isDigit digit rfl) (ne_of_isDigit digit rfl)
      (ne_of_isDigit digit rfl) (word?_digits digit _).1 fuel pos
  | true =>
    exact valueAt_other (by decide) (by decide) (by decide) (word?_digits digit _).2 fuel pos

/-- A numeral spells its value. -/
lemma spells_numeral {n : Numeral} {rest : List Char} {v : Json} (found : n.Before rest)
    (value : n.value = .ok v) : Spells n.chars v := by
  intro fuel pos rest' enough ends
  have again := found.again ends
  have some_char : n.chars.length ≠ 0 := by
    have some_digit := List.length_pos_iff.mpr found.some_digit
    rw [Numeral.length_chars]
    omega
  obtain ⟨fuel, rfl⟩ := Nat.exists_eq_add_of_le' (show 1 ≤ fuel by omega)
  rw [valueAt_numeral again, value]
  rfl

/-! ## Written whole numbers -/

lemma head_toDigits {n : Nat} (h : n ≠ 0) : ∃ d ds, Nat.toDigits 10 n = d :: ds ∧ d ≠ '0' := by
  induction n using Nat.strongRecOn with
  | ind n ih =>
    rw [Nat.toDigits_eq_if (by decide)]
    by_cases small : n < 10
    · have nonzero : ∀ k < 10, k ≠ 0 → k.digitChar ≠ '0' := by decide
      exact ⟨n.digitChar, [], if_pos small, nonzero n small h⟩
    · obtain ⟨d, ds, more, nonzero⟩ := ih (n / 10) (by omega) (by omega)
      refine ⟨d, ds ++ [(n % 10).digitChar], ?_, nonzero⟩
      rw [if_neg small, more, List.cons_append]

/-- The digits of a number are taken whole. -/
lemma wholeDigits_toDigits (n : Nat) {rest : List Char} (stop : NoDigit rest) :
    wholeDigits (Nat.toDigits 10 n ++ rest) = Nat.toDigits 10 n := by
  by_cases h : n = 0
  · subst h
    rfl
  · obtain ⟨d, ds, written, nonzero⟩ := head_toDigits h
    have digits : ∀ c ∈ d :: ds, c.isDigit = true := by
      intro c hc
      rw [← written] at hc
      exact Nat.isDigit_of_mem_toDigits (by decide) (by decide) hc
    rw [written]
    exact wholeDigits_digits nonzero digits stop

lemma digitsValue_toDigits (n : Nat) : Text.digitsValue (Nat.toDigits 10 n) = n :=
  Nat.ofDigitChars_toDigits (by decide) (by decide)

/-- The numeral of a whole number. -/
def Numeral.ofDigits (negative : Bool) (digits : List Char) : Numeral :=
  ⟨negative, digits, [], [], none⟩

lemma chars_ofDigits (negative : Bool) (digits : List Char) :
    (Numeral.ofDigits negative digits).chars = (if negative then ['-'] else []) ++ digits := by
  cases negative <;> simp [Numeral.chars, Numeral.ofDigits, pointPart]

lemma before_toDigits (negative : Bool) (n : Nat) :
    (Numeral.ofDigits negative (Nat.toDigits 10 n)).Before [] := by
  have stop : NoDigit [] := nofun
  have whole := wholeDigits_toDigits n stop
  exact ⟨Nat.toDigits_ne_nil, whole, rfl, rfl, rfl⟩

/-- The digits of a whole number that is short enough spell it, with a sign or without. -/
lemma spells_toDigits (negative : Bool) {n : Nat}
    (few : (Nat.toDigits 10 n).length ≤ Decimal.maxDigits) :
    Spells ((if negative then ['-'] else []) ++ Nat.toDigits 10 n)
      (int (if negative then -(n : Int) else n)) := by
  rw [← chars_ofDigits]
  refine spells_numeral (before_toDigits negative n) ?_
  simp only [Numeral.value, Numeral.ofDigits, List.isEmpty_nil, Option.isNone_none, Bool.and_self,
    if_true, if_neg (Nat.not_lt.mpr few), digitsValue_toDigits]

lemma toList_repr (n : Nat) : n.repr.toList = Nat.toDigits 10 n := by
  rw [Nat.repr_eq_ofList_toDigits, String.toList_ofList]

lemma toList_ofNat (n : Nat) : (toString (Int.ofNat n)).toList = Nat.toDigits 10 n := toList_repr n

lemma toList_negSucc (n : Nat) :
    (toString (Int.negSucc n)).toList = '-' :: Nat.toDigits 10 (n + 1) := by
  show ("-" ++ (n + 1).repr).toList = _
  rw [String.toList_append, toList_repr]
  rfl

/-- A whole number that is short enough to be read is spelled by its digits. -/
lemma spells_int {i : Int} (few : (Nat.toDigits 10 i.natAbs).length ≤ Decimal.maxDigits) :
    Spells (toString i).toList (int i) := by
  cases i with
  | ofNat n =>
    rw [toList_ofNat]
    exact spells_toDigits false few
  | negSucc n =>
    rw [toList_negSucc]
    exact spells_toDigits true few

end TargetAssembly.Json
