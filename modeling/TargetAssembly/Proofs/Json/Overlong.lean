import TargetAssembly.Proofs.Json.Taken

/-!
# Numbers that are too long to be read

Reading stops at a whole number with too many digits wherever a value is due, and no earlier fault
of the text does.  What stands before such a place is a chain of pieces, and what follows the number is
not looked at.
-/

namespace TargetAssembly.Json

/-!
## Texts that break off where a value is due

Reading fails at a place where a value is due if no value stands there, or if a whole number with
too many digits does.  What stands before such a place is described by `Awaits`: open brackets, and
what is complete in them.  It is a chain of pieces, each of which leads from one thing that the
reader has to read to another (`Between`).  What fails behind a piece fails before it
(`Between.fails`), and the reader fails where a value is due only by going on behind pieces
(`exists_between`).
-/

open Text (Point)

/-! ### What is due -/

/-- What the reader has to read: a value, or the rest of the parts of a list or an object. -/
inductive Due where
  | value
  | items
  | members

namespace Due

/-- The steps that the reader needs besides two for each character. -/
def steps : Due → Nat
  | value => 1
  | _ => 2

/-- Reading what is due fails. -/
def Fails (d : Due) (fuel : Nat) (c : Cursor) (e : ReadError) : Prop :=
  match d with
  | value => valueAt fuel c = .error e
  | items => itemsAt fuel c = .error e
  | members => membersAt fuel c = .error e

end Due

/-- A text that does not start with what ends a list, or with what no value starts with. -/
def Free (s : List Char) : Prop := ∀ c ∈ s.head?, isBlank c = false ∧ c ≠ ']' ∧ c ≠ '\ufeff'

lemma free_cons {c : Char} (hc : isBlank c = false ∧ c ≠ ']' ∧ c ≠ '\ufeff') (rest : List Char) :
    Free (c :: rest) := by
  intro b hb
  cases hb
  exact hc

/-- A text that may be found where something is due; a value that is due may also be missing. -/
def Due.Begins (d : Due) (s : List Char) : Prop :=
  match d with
  | members => ∃ tail, s = '\x22' :: tail
  | _ => Free s

lemma Due.Begins.free {d : Due} {s : List Char} (h : d.Begins s) : Free s := by
  cases d with
  | members =>
    obtain ⟨tail, rfl⟩ := h
    exact free_cons (by decide) tail
  | value | items => exact h

/-! ### Pieces -/

/-- Characters that lead from one thing that is due to another. -/
inductive Between : Due → List Char → Due → Prop where
  | list {gap : List Char} (blank : Blank gap) : Between .value ('[' :: gap) .items
  | object {gap : List Char} (blank : Blank gap) : Between .value ('\x7b' :: gap) .members
  | item : Between .items [] .value
  | moreItems {cs left right : List Char} {v : Json} (item : SpellsPart lists cs v)
    (blankLeft : Blank left) (blankRight : Blank right) :
    Between .items (cs ++ (left ++ ',' :: right)) .items
  | member {name left right : List Char} {s : List Point} (named : SpellsText name s)
    (blankLeft : Blank left) (blankRight : Blank right) :
    Between .members ('\x22' :: (name ++ (left ++ ':' :: right))) .value
  | moreMembers {cs left right : List Char} {m : List Point × Json}
    (member : SpellsPart objects cs m) (blankLeft : Blank left) (blankRight : Blank right) :
    Between .members (cs ++ (left ++ ',' :: right)) .members

/-- A text that breaks off where a value is due. -/
inductive Awaits : Due → List Char → Prop where
  | here : Awaits .value []
  | behind {d d' : Due} {front b : List Char} (piece : Between d front d') (more : Awaits d' b) :
    Awaits d (front ++ b)

/-- Every member starts with a quote. -/
lemma SpellsPart.exists_quote {cs : List Char} {m : List Point × Json}
    (h : SpellsPart objects cs m) : ∃ tail, cs = '\x22' :: tail := by
  have read := h cs.length 0 [] (Nat.le_refl _) ends_nil
  obtain ⟨e, failed, -⟩ | ⟨name, left, right, rest, s, split, -⟩ :=
    memberAt_cases cs.length 0 (cs ++ [])
  · cases failed.symm.trans read
  · rw [List.append_nil] at split
    exact ⟨_, split⟩

lemma Between.begins {d d' : Due} {front : List Char} (h : Between d front d') {s : List Char}
    (hs : d'.Begins s) : d.Begins (front ++ s) := by
  cases h with
  | list => exact free_cons (c := '[') (by decide) _
  | object => exact free_cons (c := '\x7b') (by decide) _
  | item => exact hs
  | moreItems item =>
    obtain ⟨c, tail, rfl, starts⟩ := Spells.exists_head item
    exact free_cons starts _
  | member => exact ⟨_, rfl⟩
  | moreMembers member =>
    obtain ⟨tail, rfl⟩ := member.exists_quote
    exact ⟨_, rfl⟩

/-- The characters of a piece pay for the step that it takes. -/
lemma Between.steps {d d' : Due} {front : List Char} (h : Between d front d') :
    d'.steps + 1 ≤ 2 * front.length + d.steps := by
  cases h <;> simp only [Due.steps, List.length_cons, List.length_append, List.length_nil] <;> omega

/-! ### Failing behind a piece -/

namespace Bracketed

variable {α : Type} {K : Bracketed α} {fuel pos : Nat} {rest : List Char} {e : ReadError}

/-- A value in brackets fails with its parts. -/
lemma valueAt_error {gap : List Char} (blank : Blank gap) (solid : Solid rest)
    (not_close : rest.head? ≠ some K.closing)
    (parts : K.parts fuel ⟨pos + 1 + gap.length, rest⟩ = .error e) :
    valueAt (fuel + 1) ⟨pos, K.opening :: (gap ++ rest)⟩ = .error e := by
  rw [valueAt_parts blank solid not_close, parts]
  rfl

/-- Parts fail with their first one. -/
lemma parts_error {c : Cursor} (part : K.part fuel c = .error e) :
    K.parts (fuel + 1) c = .error e := by
  rw [K.parts_succ, part]
  rfl

/-- Parts fail with those behind the first one. -/
lemma parts_error_more {cs left right : List Char} {a : α} (part : SpellsPart K cs a)
    (enough : cs.length ≤ fuel) (blankLeft : Blank left) (blankRight : Blank right)
    (solid : Solid rest)
    (parts : K.parts fuel ⟨pos + cs.length + left.length + 1 + right.length, rest⟩ = .error e) :
    K.parts (fuel + 1) ⟨pos, cs ++ (left ++ ',' :: (right ++ rest))⟩ = .error e := by
  have ends : Ends (left ++ ',' :: (right ++ rest)) :=
    ends_blank blankLeft (ends_cons (by decide) _)
  rw [K.parts_succ, part fuel pos _ enough ends]
  simp only [bind, Except.bind, partBehind_comma blankLeft blankRight solid, parts, Except.map]

end Bracketed

lemma place_cons (pos : Nat) (c : Char) (cs : List Char) :
    pos + (c :: cs).length = pos + 1 + cs.length := by
  rw [List.length_cons, Nat.add_assoc, Nat.add_comm 1]

lemma place_more (pos : Nat) (cs left right : List Char) (c : Char) :
    pos + (cs ++ (left ++ c :: right)).length =
      pos + cs.length + left.length + 1 + right.length := by
  simp only [List.length_append, List.length_cons]
  omega

/-- What fails behind a piece fails before it. -/
lemma Between.fails {d d' : Due} {front : List Char} (h : Between d front d') {rest : List Char}
    (begins : d'.Begins rest) {fuel pos : Nat} {e : ReadError} (enough : front.length ≤ fuel)
    (behind : d'.Fails fuel ⟨pos + front.length, rest⟩ e) :
    d.Fails (fuel + 1) ⟨pos, front ++ rest⟩ e := by
  have solid : Solid rest := fun c hc => (begins.free c hc).1
  cases h with
  | @list gap blank =>
    have not_close : rest.head? ≠ some ']' := fun close => (begins _ close).2.1 rfl
    rw [place_cons] at behind
    exact Bracketed.valueAt_error (K := lists) blank solid not_close behind
  | @object gap blank =>
    obtain ⟨tail, rfl⟩ := begins
    have not_close : ('\x22' :: tail).head? ≠ some '\x7d' := by simp
    rw [place_cons] at behind
    exact Bracketed.valueAt_error (K := objects) blank solid not_close behind
  | item => exact Bracketed.parts_error (K := lists) behind
  | @moreItems cs left right v item blankLeft blankRight =>
    rw [List.length_append] at enough
    rw [place_more] at behind
    simp only [List.append_assoc, List.cons_append]
    exact Bracketed.parts_error_more item (by omega) blankLeft blankRight solid behind
  | @member name left right s named blankLeft blankRight =>
    rw [place_cons, place_more] at behind
    have value : valueAt fuel ⟨pos + 1 + name.length + left.length + 1 + right.length, rest⟩ =
        .error e := behind
    have member : objects.part fuel
        ⟨pos, '\x22' :: (name ++ (left ++ ':' :: (right ++ rest)))⟩ = .error e := by
      refine (memberAt_name named blankLeft blankRight solid fuel pos).trans ?_
      rw [value]
      rfl
    simp only [List.append_assoc, List.cons_append]
    exact Bracketed.parts_error member
  | @moreMembers cs left right m member blankLeft blankRight =>
    rw [List.length_append] at enough
    rw [place_more] at behind
    simp only [List.append_assoc, List.cons_append]
    exact Bracketed.parts_error_more member (by omega) blankLeft blankRight solid behind

lemma Awaits.begins {d : Due} {b : List Char} (h : Awaits d b) {s : List Char} (hs : Free s) :
    d.Begins (b ++ s) := by
  induction h with
  | here => exact hs
  | behind piece _ ih =>
    rw [List.append_assoc]
    exact piece.begins ih

/-- Where what stands behind fails as a value, the whole fails. -/
lemma Awaits.fails {d : Due} {b : List Char} (h : Awaits d b) {s : List Char} (hs : Free s)
    {place : Nat} {e : ReadError} (fails : ∀ fuel, valueAt (fuel + 1) ⟨place, s⟩ = .error e)
    {fuel pos : Nat} (enough : 2 * b.length + d.steps ≤ fuel) (there : pos + b.length = place) :
    d.Fails fuel ⟨pos, b ++ s⟩ e := by
  induction h generalizing fuel pos with
  | here =>
    obtain ⟨fuel, rfl⟩ := Nat.exists_eq_add_of_le' (show 1 ≤ fuel from enough)
    subst there
    exact fails fuel
  | @behind d d' front b piece more ih =>
    have paid := piece.steps
    simp only [List.length_append] at enough there
    have some_step : 1 ≤ d.steps := by cases d <;> decide
    obtain ⟨fuel, rfl⟩ := Nat.exists_eq_add_of_le' (show 1 ≤ fuel by omega)
    rw [List.append_assoc]
    exact piece.fails (more.begins hs) (by omega) (ih (by omega) (by omega))

/-! ### Where reading fails -/

/-- Reading what is due fails behind a piece of it. -/
def FailsBehind (d : Due) (fuel : Nat) (c : Cursor) (e : ReadError) : Prop :=
  ∃ front d' rest, c.rest = front ++ rest ∧ Between d front d' ∧
    d'.Fails fuel ⟨c.position + front.length, rest⟩ e

namespace Bracketed

variable {α : Type} {K : Bracketed α} {fuel : Nat} {e : ReadError}

/-- Reading a value in brackets fails with the parts. -/
lemma error_of_value {pos : Nat} {cs : List Char}
    (h : valueAt (fuel + 1) ⟨pos, K.opening :: cs⟩ = .error e) :
    ∃ gap tail, cs = gap ++ tail ∧ Blank gap ∧
      K.parts fuel ⟨pos + (K.opening :: gap).length, tail⟩ = .error e := by
  obtain ⟨gap, tail, rfl, blank, -, ⟨rest, -, read⟩ | ⟨-, read⟩⟩ := K.valueAt_cases fuel pos cs
  · cases read.symm.trans h
  · have parts := map_eq_error (read.symm.trans h)
    rw [← place_cons] at parts
    exact ⟨gap, tail, rfl, blank, parts⟩

/-- Reading parts fails with the first part or with those behind it. -/
lemma error_of_parts (sound : ∀ c r, K.part fuel c = .ok r → Takes (SpellsPart K) c r) {c : Cursor}
    (due : AtValue e) (h : K.parts (fuel + 1) c = .error e) :
    K.part fuel c = .error e ∨ ∃ cs a left right rest,
      c.rest = cs ++ (left ++ ',' :: right) ++ rest ∧ SpellsPart K cs a ∧ Blank left ∧ Blank right ∧
        K.parts fuel ⟨c.position + (cs ++ (left ++ ',' :: right)).length, rest⟩ = .error e := by
  obtain ⟨e', first, read⟩ | ⟨used, a, gap, rest, split, spelled, blank, read⟩ |
    ⟨used, a, left, right, rest, split, spelled, blankLeft, blankRight, read⟩ | ⟨p, read⟩ :=
      parts_cases sound c
  · obtain rfl := Except.error.inj (read.symm.trans h)
    exact .inl first
  · cases read.symm.trans h
  · have more := map_eq_error (read.symm.trans h)
    rw [← place_more] at more
    exact .inr ⟨used, a, left, right, rest, by simp [split], spelled, blankLeft, blankRight, more⟩
  · cases read.symm.trans h
    cases due

end Bracketed

/-- Reading fails where a value is due because no number stands there, or behind a piece. -/
lemma exists_between {d : Due} {fuel : Nat} {c : Cursor} {e : ReadError}
    (h : d.Fails (fuel + 1) c e) (due : AtValue e) :
    d = .value ∧ numberAt c = .error e ∨ FailsBehind d fuel c e := by
  obtain ⟨pos, cs⟩ := c
  cases d with
  | value =>
    obtain ⟨rest, rfl, read⟩ | ⟨rest, rfl⟩ | ⟨rest, rfl⟩ | ⟨w, rest, rfl, -, read⟩ |
      read := valueAt_cases fuel pos cs
    · exact absurd due (not_atValue_of_text (map_eq_error (read.symm.trans h)))
    · obtain ⟨gap, tail, rfl, blank, items⟩ := Bracketed.error_of_value (K := lists) h
      exact .inr ⟨'[' :: gap, .items, tail, rfl, .list blank, items⟩
    · obtain ⟨gap, tail, rfl, blank, members⟩ := Bracketed.error_of_value (K := objects) h
      exact .inr ⟨'\x7b' :: gap, .members, tail, rfl, .object blank, members⟩
    · cases read.symm.trans h
    · exact .inl ⟨rfl, read.symm.trans h⟩
  | items =>
    obtain first | ⟨used, v, left, right, rest, split, item, blankLeft, blankRight, more⟩ :=
      Bracketed.error_of_parts (K := lists) (fun c r h => takes_value h) due h
    · exact .inr ⟨[], .value, cs, rfl, .item, first⟩
    · exact .inr ⟨_, .items, rest, split, .moreItems item blankLeft blankRight, more⟩
  | members =>
    obtain first | ⟨used, m, left, right, rest, split, member, blankLeft, blankRight, more⟩ :=
      Bracketed.error_of_parts (K := objects) (fun c r h => takes_member h) due h
    · obtain ⟨e', failed, early⟩ |
        ⟨name, left, right, rest, s, rfl, named, blankLeft, blankRight, -, read⟩ :=
          memberAt_cases fuel pos cs
      · cases failed.symm.trans first
        exact absurd due early
      · have value := map_eq_error (read.symm.trans first)
        rw [← place_more, ← place_cons] at value
        exact .inr ⟨_, .value, rest, by simp, .member named blankLeft blankRight, value⟩
    · exact .inr ⟨_, .members, rest, split, .moreMembers member blankLeft blankRight, more⟩

/-- Reading that fails where a value is due has read a text that breaks off there. -/
lemma exists_awaits {fuel : Nat} {d : Due} {c : Cursor} {e : ReadError} (h : d.Fails fuel c e)
    (due : AtValue e) (enough : 2 * c.rest.length + d.steps ≤ fuel) :
    ∃ b s place, c.rest = b ++ s ∧ Awaits d b ∧ c.position + b.length = place ∧
      numberAt ⟨place, s⟩ = .error e := by
  induction fuel generalizing d c with
  | zero => cases d <;> cases enough
  | succ fuel ih =>
    obtain ⟨rfl, number⟩ | ⟨front, d', rest, split, piece, behind⟩ := exists_between h due
    · exact ⟨[], c.rest, c.position, rfl, .here, rfl, number⟩
    · have paid := piece.steps
      rw [split, List.length_append] at enough
      obtain ⟨b, s, place, rfl, awaits, there, number⟩ := ih behind (by dsimp only; omega)
      have split' : c.rest = front ++ b ++ s := by rw [split, List.append_assoc]
      refine ⟨front ++ b, s, place, split', .behind piece awaits, ?_, number⟩
      rw [List.length_append, ← there, Nat.add_assoc]

end TargetAssembly.Json

namespace TargetAssembly.Json

/-!
## Overlong texts

A whole number with more than `Decimal.maxDigits` digits ends the reading wherever a value is due,
and no earlier fault of the text does.  Nothing else is asked of what stands before the number: a
text is `Overlong` if all that the reader misses in what stands before such a number is a value at
its end.  What follows the number is not looked at, but for what would make it another number.
-/

/-! ### Where reading a whole text fails -/

section Read

variable {raw : List Char} {e : ReadError}

/-- Reading that fails where a value is due has read a text that breaks off there. -/
lemma exists_awaits_of_read (h : read raw = .error e) (due : AtValue e) :
    ∃ gap b s place, raw = gap ++ (b ++ s) ∧ Blank gap ∧ Awaits .value b ∧
      gap.length + b.length = place ∧ numberAt ⟨place, s⟩ = .error e := by
  by_cases mark : raw.head? = some '\ufeff'
  · rw [read, if_pos mark] at h
    cases h
    cases due
  obtain ⟨gap, tail, rfl, blank, solid⟩ := exists_blanks raw
  rw [read_append blank solid mark, Nat.zero_add] at h
  cases value : valueAt (2 * (gap ++ tail).length + 2) ⟨gap.length, tail⟩ with
  | ok r =>
    rw [value] at h
    replace h : endBehind r = .error e := h
    dsimp only [endBehind] at h
    split_ifs at h
    cases h
    cases due
  | error e' =>
    rw [value] at h
    obtain rfl : e' = e := Except.error.inj h
    obtain ⟨b, s, place, rfl, awaits, there, number⟩ := exists_awaits (d := .value) value due
      (by simp only [List.length_append, Due.steps]; omega)
    exact ⟨gap, b, s, place, rfl, blank, awaits, there, number⟩

/-- What fails where a value is due makes the reading of the whole text fail. -/
lemma read_of_awaits {gap b s : List Char} (blank : Blank gap) (awaits : Awaits .value b)
    (free : Free s) {place : Nat} (there : gap.length + b.length = place)
    (fails : ∀ fuel, valueAt (fuel + 1) ⟨place, s⟩ = .error e) :
    read (gap ++ (b ++ s)) = .error e := by
  have begins : Free (b ++ s) := awaits.begins free
  have solid : Solid (b ++ s) := fun c hc => (begins c hc).1
  have no_mark : (b ++ s).head? ≠ some '\ufeff' := fun mark => (begins _ mark).2.2 rfl
  have enough : 2 * b.length + Due.value.steps ≤ 2 * (gap ++ (b ++ s)).length + 2 := by
    simp only [List.length_append, Due.steps]
    omega
  have value : valueAt (2 * (gap ++ (b ++ s)).length + 2) ⟨gap.length, b ++ s⟩ = .error e :=
    awaits.fails free fails enough there
  rw [read_append blank solid (no_mark_append blank no_mark), Nat.zero_add, value]
  rfl

end Read

/-! ### Too many digits -/

lemma Numeral.Before.free {n : Numeral} {rest : List Char} (h : n.Before rest) :
    Free (n.chars ++ rest) := by
  obtain ⟨d, ds, first, digit⟩ := h.exists_digit
  have apart {c : Char} (other : c.isDigit = false) : d ≠ c := ne_of_isDigit digit other
  have solid : isBlank d = false := by
    simp [isBlank, apart (c := ' ') rfl, apart (c := '\t') rfl, apart (c := '\n') rfl,
      apart (c := '\r') rfl]
  rw [Numeral.chars_append, first]
  cases n.negative with
  | false => exact free_cons ⟨solid, apart rfl, apart rfl⟩ _
  | true => exact free_cons (c := '-') (by decide) _

/-- Too many digits for a whole number, in front of a text that makes no other number of them. -/
structure LongDigits (digits rest : List Char) : Prop where
  many : Decimal.maxDigits < digits.length
  each : ∀ d ∈ digits, d.isDigit = true
  no_zero : digits.head? ≠ some '0'
  stop : NoDigit rest
  no_fraction : fractionDigits rest = []
  no_exponent : exponent? rest = none

section LongDigits

variable {digits rest : List Char} (h : LongDigits digits rest) (negative : Bool)

include h

lemma LongDigits.before : (Numeral.ofDigits negative digits).Before rest := by
  obtain ⟨d, ds, rfl⟩ := List.exists_cons_of_length_pos (Nat.zero_lt_of_lt h.many)
  have nonzero : d ≠ '0' := by simpa using h.no_zero
  exact ⟨List.cons_ne_nil d ds, wholeDigits_digits nonzero h.each h.stop, h.no_fraction,
    h.no_exponent, rfl⟩

lemma LongDigits.value :
    (Numeral.ofDigits negative digits).value = .error (.tooManyDigits digits.length) :=
  if_pos h.many

end LongDigits

/-- A numeral has no value only if its digits are too many for a whole number. -/
lemma longDigits_of_value {n : Numeral} {rest : List Char} {e : ReadError} (found : n.Before rest)
    (value : n.value = .error e) : n = .ofDigits n.negative n.whole ∧ LongDigits n.whole rest ∧
      e = .tooManyDigits n.whole.length := by
  obtain ⟨negative, whole, fraction, exponent, power⟩ := n
  obtain ⟨rfl, rfl, many, rfl⟩ : fraction = [] ∧ power = none ∧
      Decimal.maxDigits < whole.length ∧ e = .tooManyDigits whole.length := by
    dsimp only [Numeral.value] at value
    split_ifs at value with parts many
    · rw [Bool.and_eq_true, List.isEmpty_iff, Option.isNone_iff_eq_none] at parts
      exact ⟨parts.1, parts.2, many, (Except.error.inj value).symm⟩
  obtain rfl : exponent = [] := List.eq_nil_of_length_eq_zero found.length.symm
  refine ⟨rfl, ?_, rfl⟩
  have read : wholeDigits (whole ++ rest) = whole := found.whole
  rcases wholeDigits_cases (whole ++ rest) with none | ⟨tail, zero, -⟩ |
    ⟨d, ds, tail, digits, split, nonzero, digit, others, stop⟩
  · rw [← read, none] at many
    cases many
  · rw [← read, zero] at many
    exact absurd many (by decide)
  · obtain rfl : whole = d :: ds := read.symm.trans digits
    obtain rfl : rest = tail := List.append_cancel_left split
    exact ⟨many, List.forall_mem_cons.mpr ⟨digit, others⟩, by simpa using nonzero, stop,
      found.fraction, found.power⟩

/-- A number is missing, or has too many digits. -/
lemma numberAt_error {place : Nat} {s : List Char} {e : ReadError}
    (h : numberAt ⟨place, s⟩ = .error e) : e = .malformed .expectingValue place ∨
      ∃ negative digits rest, s = (Numeral.ofDigits negative digits).chars ++ rest ∧
        LongDigits digits rest ∧ e = .tooManyDigits digits.length := by
  obtain missing | ⟨n, rest, rfl, found⟩ := exists_numeral place s
  · exact .inl (Except.error.inj (h.symm.trans missing))
  · have value := map_eq_error ((found.numberAt place).symm.trans h)
    obtain ⟨same, long, rfl⟩ := longDigits_of_value found value
    exact .inr ⟨n.negative, n.whole, rest, by rw [← same], long, rfl⟩

/-! ### Overlong texts -/

/-- A text with too long a number where the text before it misses nothing but a value at its end. -/
def Overlong (count : Nat) (raw : List Char) : Prop :=
  ∃ before negative digits rest,
    raw = before ++ ((Numeral.ofDigits negative digits).chars ++ rest) ∧
    read before = .error (.malformed .expectingValue before.length) ∧
    LongDigits digits rest ∧ digits.length = count

lemma overlong_of_read {raw : List Char} {count : Nat}
    (h : read raw = .error (.tooManyDigits count)) : Overlong count raw := by
  obtain ⟨gap, b, s, place, rfl, blank, awaits, there, number⟩ := exists_awaits_of_read h trivial
  obtain missing | ⟨negative, digits, rest, rfl, long, same⟩ := numberAt_error number
  · cases missing
  have before : read (gap ++ (b ++ [])) = .error (.malformed .expectingValue place) :=
    read_of_awaits blank awaits nofun there fun fuel => rfl
  rw [List.append_nil, ← there, ← List.length_append] at before
  exact ⟨gap ++ b, negative, digits, rest, by rw [List.append_assoc], before, long,
    (ReadError.tooManyDigits.inj same).symm⟩

lemma read_of_overlong {raw : List Char} {count : Nat} (h : Overlong count raw) :
    read raw = .error (.tooManyDigits count) := by
  obtain ⟨before, negative, digits, rest, rfl, broken, long, rfl⟩ := h
  obtain ⟨gap, b, s, place, rfl, blank, awaits, there, number⟩ := exists_awaits_of_read broken rfl
  -- the value is missing at the end, so nothing stands there
  obtain missing | ⟨_, _, _, -, -, many⟩ := numberAt_error number
  swap
  · cases many
  cases missing
  obtain rfl : s = [] := by
    simp only [List.length_append] at there
    exact List.eq_nil_of_length_eq_zero (by omega)
  have found := long.before negative
  rw [List.append_nil, List.append_assoc]
  refine read_of_awaits blank awaits found.free rfl fun fuel => ?_
  rw [valueAt_numeral found, long.value]
  rfl

/-- Reading stops at a number with too many digits exactly if the text is overlong. -/
theorem read_eq_tooManyDigits_iff {raw : List Char} {count : Nat} :
    read raw = .error (.tooManyDigits count) ↔ Overlong count raw :=
  ⟨overlong_of_read, read_of_overlong⟩

end TargetAssembly.Json
