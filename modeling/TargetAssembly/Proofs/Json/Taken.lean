import TargetAssembly.Proofs.FirstFlaw
import TargetAssembly.Proofs.Json.Grammar

/-!
# What the reader takes for a value means it

Whatever the reader takes for a value is characters that mean the value (`means_value`), so it would
take them again: at every other place, with any number of steps that suffices, and in front of
everything that does not prolong a number (`takes_value`).  The proof follows the reader from part
to part, and is an induction on its steps.
-/

namespace TargetAssembly.Json

open Text (Point)

/-- A result that was read at a place: the characters that it took spell it. -/
def Takes {α : Type} (spells : List Char → α → Prop) (c : Cursor) (r : α × Cursor) : Prop :=
  ∃ used, c.rest = used ++ r.2.rest ∧ r.2.position = c.position + used.length ∧ spells used r.1

lemma Takes.imp {α : Type} {P Q : List Char → α → Prop} (imp : ∀ cs a, P cs a → Q cs a) {c : Cursor}
    {r : α × Cursor} (h : Takes P c r) : Takes Q c r := by
  obtain ⟨used, split, place, spelled⟩ := h
  exact ⟨used, split, place, imp _ _ spelled⟩

/-! ## Texts -/

/-- The reader takes exactly these characters for the positions, pairs being in halves. -/
def SpellsHalves (cs : List Char) (ps : List Point) : Prop :=
  ∀ start pos rest, halvesAt start pos (cs ++ rest) = .ok (ps, ⟨pos + cs.length, rest⟩)

/-- Characters for one position in front of those for others. -/
lemma takes_more (front : List Char) {pos : Nat} {rest : List Char} {p : Point}
    {r : Except ReadError (List Point × Cursor)} {ps : List Point × Cursor}
    (step : ∀ start pos rest qs after,
      halvesAt start (pos + front.length) rest = .ok (qs, after) →
        halvesAt start pos (front ++ rest) = .ok (p :: qs, after))
    (more : ∀ {qs}, r = .ok qs → Takes SpellsHalves ⟨pos + front.length, rest⟩ qs)
    (h : before p r = .ok ps) : Takes SpellsHalves ⟨pos, front ++ rest⟩ ps := by
  obtain ⟨qs, behind, rfl⟩ := map_eq_ok h
  obtain ⟨used, split, place, spelled⟩ := more behind
  dsimp only at split place
  refine ⟨front ++ used, by simp [split], by simp [place, Nat.add_assoc], ?_⟩
  intro start pos rest
  have again := step start pos (used ++ rest) _ _ (spelled start (pos + front.length) rest)
  rw [List.append_assoc, again, List.length_append, Nat.add_assoc]

/-- What is no backslash at the end and none in front of a character is none. -/
lemma ne_backslash {d : Char} {cs : List Char} (single : d = '\\' → cs = [] → False)
    (escape : ∀ c rest, d = '\\' → cs = c :: rest → False) : d ≠ '\\' := by
  rintro rfl
  cases cs with
  | nil => exact single rfl rfl
  | cons c rest => exact escape c rest rfl rfl

lemma takes_halves {start pos : Nat} {cs : List Char} {r : List Point × Cursor}
    (h : halvesAt start pos cs = .ok r) : Takes SpellsHalves ⟨pos, cs⟩ r := by
  fun_induction halvesAt start pos cs generalizing r with
  | case2 pos rest =>
    cases h
    exact ⟨['\x22'], rfl, rfl, fun start pos rest => rfl⟩
  | case5 pos a b d e rest some_more code value ih =>
    exact takes_more ['\\', 'u', a, b, d, e]
      (fun _ _ _ _ _ behind => halvesAt_code value behind) ih h
  | case8 pos letter rest no_digits not_u e stands ih =>
    exact takes_more ['\\', letter]
      (fun _ _ _ _ _ behind => halvesAt_letter not_u stands behind) ih h
  | case11 pos d rest quote single _ _ escape visible ih =>
    have backslash := ne_backslash single escape
    have shown : 0x20 ≤ d.toNat := Nat.le_of_not_lt visible
    exact takes_more [d] (fun _ _ _ _ _ behind => halvesAt_plain quote backslash shown behind) ih h
  | _ => cases h

lemma takes_text {start pos : Nat} {cs : List Char} {r : List Point × Cursor}
    (h : textAt start pos cs = .ok r) : Takes SpellsText ⟨pos, cs⟩ r := by
  obtain ⟨qs, halves, rfl⟩ := map_eq_ok h
  obtain ⟨used, split, place, spelled⟩ := takes_halves halves
  refine ⟨used, split, place, fun start pos rest => ?_⟩
  rw [textAt, spelled start pos rest]
  rfl

/-! ## Steps of the reader -/

lemma exists_blanks (cs : List Char) :
    ∃ gap tail, cs = gap ++ tail ∧ Blank gap ∧ Solid tail := by
  refine ⟨cs.takeWhile isBlank, cs.dropWhile isBlank, List.takeWhile_append_dropWhile.symm,
    fun b hb => List.mem_takeWhile_imp hb, fun c hc => ?_⟩
  simpa [Option.mem_def.mp hc] using List.head?_dropWhile_not isBlank cs

/-- An error at a place where a value is due. -/
def AtValue : ReadError → Prop
  | .malformed fault _ => fault = .expectingValue
  | .tooManyDigits _ => True

lemma not_atValue {fault : Fault} (other : fault ≠ .expectingValue) (pos : Nat) :
    ¬ AtValue (.malformed fault pos) := other

lemma not_atValue_of_halves {start pos : Nat} {cs : List Char} {e : ReadError}
    (h : halvesAt start pos cs = .error e) : ¬ AtValue e := by
  fun_induction halvesAt start pos cs with
  | case5 pos a b d e' rest some_more code value ih => exact ih (map_eq_error h)
  | case8 pos letter rest no_digits not_u e' stands ih => exact ih (map_eq_error h)
  | case11 pos d rest quote single _ _ escape visible ih => exact ih (map_eq_error h)
  | _ => cases h <;> exact not_atValue (by decide) _

/-- Reading a text fails for reasons of its own. -/
lemma not_atValue_of_text {start pos : Nat} {cs : List Char} {e : ReadError}
    (h : textAt start pos cs = .error e) : ¬ AtValue e :=
  not_atValue_of_halves (map_eq_error h)

lemma exists_word {cs : List Char} {w : List Char × Json} (h : word? cs = some w) :
    ∃ tail, cs = w.1 ++ tail ∧ w ∈ words := by
  unfold word? at h
  have starts := List.find?_some h
  obtain ⟨tail, split⟩ := List.isPrefixOf_iff_prefix.mp starts
  exact ⟨tail, split.symm, List.mem_of_find?_eq_some h⟩

/-- What may come of reading a value: a text, a list, an object, a word or a number. -/
lemma valueAt_cases (fuel pos : Nat) (cs : List Char) :
    (∃ rest, cs = '\x22' :: rest ∧ valueAt (fuel + 1) ⟨pos, cs⟩ =
        (textAt pos (pos + 1) rest).map fun r => (text r.1, r.2)) ∨
      (∃ rest, cs = '[' :: rest) ∨ (∃ rest, cs = '\x7b' :: rest) ∨
      (∃ w rest, cs = w.1 ++ rest ∧ w ∈ words ∧
        valueAt (fuel + 1) ⟨pos, cs⟩ = .ok (w.2, ⟨pos + w.1.length, rest⟩)) ∨
      valueAt (fuel + 1) ⟨pos, cs⟩ = numberAt ⟨pos, cs⟩ := by
  cases cs with
  | nil => exact .inr (.inr (.inr (.inr rfl)))
  | cons c rest =>
    by_cases text : c = '\x22'
    · subst text
      exact .inl ⟨rest, rfl, by simp only [valueAt]⟩
    by_cases list : c = '['
    · exact .inr (.inl ⟨rest, by rw [list]⟩)
    by_cases object : c = '\x7b'
    · exact .inr (.inr (.inl ⟨rest, by rw [object]⟩))
    cases word : word? (c :: rest) with
    | none =>
      exact .inr (.inr (.inr (.inr (valueAt_other text list object word fuel pos))))
    | some w =>
      obtain ⟨tail, split, known⟩ := exists_word word
      have drop : (c :: rest).drop w.1.length = tail := by rw [split, List.drop_left]
      refine .inr (.inr (.inr (.inl ⟨w, tail, split, known, ?_⟩)))
      simp [valueAt, text, list, object, word, drop]

namespace Bracketed

variable {α : Type} (K : Bracketed α)

/-- What may come of reading a value in brackets: there are no parts, or the parts are read. -/
lemma valueAt_cases (fuel pos : Nat) (cs : List Char) :
    ∃ gap tail, cs = gap ++ tail ∧ Blank gap ∧ Solid tail ∧
      ((∃ rest, tail = K.closing :: rest ∧ valueAt (fuel + 1) ⟨pos, K.opening :: cs⟩ =
          .ok (K.value [], ⟨pos + 1 + gap.length + 1, rest⟩)) ∨
        tail.head? ≠ some K.closing ∧ valueAt (fuel + 1) ⟨pos, K.opening :: cs⟩ =
          (K.parts fuel ⟨pos + 1 + gap.length, tail⟩).map fun r => (K.value r.1, r.2)) := by
  obtain ⟨gap, tail, rfl, blank, solid⟩ := exists_blanks cs
  refine ⟨gap, tail, rfl, blank, solid, ?_⟩
  by_cases close : tail.head? = some K.closing
  · obtain ⟨rest, rfl⟩ := List.head?_eq_some_iff.mp close
    exact .inl ⟨rest, rfl, valueAt_none blank fuel pos rest⟩
  · exact .inr ⟨close, valueAt_parts blank solid close fuel pos⟩

/-- What may come of reading on behind a part. -/
lemma partBehind_cases (parts : Cursor → Except ReadError (List α × Cursor)) (a : α) (pos : Nat)
    (cs : List Char) :
    (∃ gap rest, cs = gap ++ K.closing :: rest ∧ Blank gap ∧
        partBehind K.closing parts a ⟨pos, cs⟩ = .ok ([a], ⟨pos + gap.length + 1, rest⟩)) ∨
      (∃ left right rest, cs = left ++ ',' :: (right ++ rest) ∧ Blank left ∧ Blank right ∧
        Solid rest ∧ partBehind K.closing parts a ⟨pos, cs⟩ =
          (parts ⟨pos + left.length + 1 + right.length, rest⟩).map fun r => (a :: r.1, r.2)) ∨
      ∃ p, partBehind K.closing parts a ⟨pos, cs⟩ = fail .expectingComma p := by
  obtain ⟨left, tail, rfl, blankLeft, solid⟩ := exists_blanks cs
  cases tail with
  | nil =>
    refine .inr (.inr ⟨pos + left.length, ?_⟩)
    rw [partBehind, skipBlanks_append blankLeft solid]
  | cons d rest =>
    by_cases close : d = K.closing
    · subst close
      exact .inl ⟨left, rest, rfl, blankLeft, partBehind_close blankLeft parts a pos rest⟩
    by_cases comma : d = ','
    · subst comma
      obtain ⟨right, rest, rfl, blankRight, solid⟩ := exists_blanks rest
      exact .inr (.inl ⟨left, right, rest, rfl, blankLeft, blankRight, solid,
        partBehind_comma blankLeft blankRight solid parts a pos⟩)
    · refine .inr (.inr ⟨pos + left.length, ?_⟩)
      rw [partBehind, skipBlanks_append blankLeft solid]
      simp only [if_neg close, if_neg comma]

variable {K}

/-- What may come of reading parts: the first fails, is the last one, or others follow it. -/
lemma parts_cases {fuel : Nat} {P : List Char → α → Prop}
    (part : ∀ c r, K.part fuel c = .ok r → Takes P c r) (c : Cursor) :
    (∃ e, K.part fuel c = .error e ∧ K.parts (fuel + 1) c = .error e) ∨
      (∃ used a gap rest, c.rest = used ++ (gap ++ K.closing :: rest) ∧ P used a ∧
        Blank gap ∧ K.parts (fuel + 1) c =
          .ok ([a], ⟨c.position + used.length + gap.length + 1, rest⟩)) ∨
      (∃ used a left right rest, c.rest = used ++ (left ++ ',' :: (right ++ rest)) ∧
        P used a ∧ Blank left ∧ Blank right ∧ K.parts (fuel + 1) c =
          (K.parts fuel ⟨c.position + used.length + left.length + 1 + right.length, rest⟩).map
            fun r => (a :: r.1, r.2)) ∨
      ∃ p, K.parts (fuel + 1) c = fail .expectingComma p := by
  rw [K.parts_succ]
  cases first : K.part fuel c with
  | error e => exact .inl ⟨e, rfl, rfl⟩
  | ok r =>
    obtain ⟨a, p, cs⟩ := r
    obtain ⟨used, split, place, spelled⟩ := part _ _ first
    dsimp only at split place
    subst place
    obtain ⟨gap, rest, rfl, blank, read⟩ |
      ⟨left, right, rest, rfl, blankLeft, blankRight, -, read⟩ | ⟨p, read⟩ :=
        K.partBehind_cases (K.parts fuel) a (c.position + used.length) cs
    · exact .inr (.inl ⟨used, a, gap, rest, split, spelled, blank, read⟩)
    · exact .inr (.inr (.inl
        ⟨used, a, left, right, rest, split, spelled, blankLeft, blankRight, read⟩))
    · exact .inr (.inr (.inr ⟨p, read⟩))

end Bracketed

/-- What may come of reading a member: it fails before the value, or the value is read. -/
lemma memberAt_cases (fuel pos : Nat) (cs : List Char) :
    (∃ e, memberAt fuel ⟨pos, cs⟩ = .error e ∧ ¬ AtValue e) ∨
      ∃ name left right rest s, cs = '\x22' :: (name ++ (left ++ ':' :: (right ++ rest))) ∧
        SpellsText name s ∧ Blank left ∧ Blank right ∧ Solid rest ∧ memberAt fuel ⟨pos, cs⟩ =
          (valueAt fuel ⟨pos + 1 + name.length + left.length + 1 + right.length, rest⟩).map
            fun r => ((s, r.1), r.2) := by
  cases cs with
  | nil => exact .inl ⟨.malformed .expectingName pos, rfl, not_atValue (by decide) pos⟩
  | cons d cs =>
    by_cases quote : d = '\x22'
    · subst quote
      cases text : textAt pos (pos + 1) cs with
      | error e =>
        refine .inl ⟨e, ?_, not_atValue_of_text text⟩
        simp only [memberAt, text]
        rfl
      | ok r =>
        obtain ⟨name, split, place, spelled⟩ := takes_text text
        obtain ⟨s, p, behind⟩ := r
        obtain rfl : p = pos + 1 + name.length := place
        obtain rfl : cs = name ++ behind := split
        obtain ⟨left, tail, rfl, blankLeft, solid⟩ := exists_blanks behind
        by_cases colon : tail.head? = some ':'
        · obtain ⟨rest, rfl⟩ := List.head?_eq_some_iff.mp colon
          obtain ⟨right, rest, rfl, blankRight, solid⟩ := exists_blanks rest
          exact .inr ⟨name, left, right, rest, s, rfl, spelled, blankLeft, blankRight, solid,
            memberAt_name spelled blankLeft blankRight solid fuel pos⟩
        · refine .inl ⟨.malformed .expectingColon (pos + 1 + name.length + left.length), ?_,
            not_atValue (by decide) _⟩
          simp only [memberAt, text, bind, Except.bind, valueBehind,
            skipBlanks_append blankLeft solid]
          split
          case h_1 rest => exact absurd rfl colon
          case h_2 => rfl
    · have failed : memberAt fuel ⟨pos, d :: cs⟩ = fail .expectingName pos := by
        simp [memberAt, quote]
      exact .inl ⟨.malformed .expectingName pos, failed, not_atValue (by decide) pos⟩

/-! ## What is taken -/

namespace Bracketed

variable {α : Type} {K : Bracketed α} {fuel : Nat} {P : List Char → α → Prop}
  {Q : List Char → List α → Prop}

/-- What is taken for a value in brackets, where `Q` holds of what is taken for the parts. -/
lemma takes_value {V : List Char → Json → Prop}
    (none : ∀ {gap : List Char}, Blank gap → V (K.opening :: (gap ++ [K.closing])) (K.value []))
    (some : ∀ {gap cs : List Char} {as : List α}, Blank gap → Q cs as →
      V (K.opening :: (gap ++ cs)) (K.value as))
    (parts : ∀ c r, K.parts fuel c = .ok r → Takes Q c r) {pos : Nat} {cs : List Char}
    {r : Json × Cursor} (h : valueAt (fuel + 1) ⟨pos, K.opening :: cs⟩ = .ok r) :
    Takes V ⟨pos, K.opening :: cs⟩ r := by
  obtain ⟨gap, tail, rfl, blank, -, ⟨rest, rfl, read⟩ | ⟨-, read⟩⟩ := K.valueAt_cases fuel pos cs
  · obtain rfl := Except.ok.inj (read.symm.trans h)
    refine ⟨K.opening :: (gap ++ [K.closing]), by simp, ?_, none blank⟩
    simp only [List.length_cons, List.length_append, List.length_nil]
    omega
  · obtain ⟨⟨as, c⟩, all, rfl⟩ := map_eq_ok (read.symm.trans h)
    obtain ⟨used, split, place, spelled⟩ := parts _ _ all
    dsimp only at split place
    refine ⟨K.opening :: (gap ++ used), by simp [split], ?_, some blank spelled⟩
    simp only [place, List.length_cons, List.length_append]
    omega

/-- What is taken for parts, where `P` holds of what is taken for each of them. -/
lemma takes_parts
    (last : ∀ {cs gap : List Char} {a : α}, P cs a → Blank gap →
      Q (cs ++ (gap ++ [K.closing])) [a])
    (others : ∀ {cs left right ds : List Char} {a : α} {as : List α}, P cs a → Blank left →
      Blank right → Q ds as → Q (cs ++ (left ++ ',' :: (right ++ ds))) (a :: as))
    (part : ∀ c r, K.part fuel c = .ok r → Takes P c r)
    (parts : ∀ c r, K.parts fuel c = .ok r → Takes Q c r) {c : Cursor} {r : List α × Cursor}
    (h : K.parts (fuel + 1) c = .ok r) : Takes Q c r := by
  obtain ⟨e, -, read⟩ | ⟨used, a, gap, rest, split, spelled, blank, read⟩ |
    ⟨used, a, left, right, rest, split, spelled, blankLeft, blankRight, read⟩ | ⟨p, read⟩ :=
      parts_cases part c
  · cases read.symm.trans h
  · obtain rfl := Except.ok.inj (read.symm.trans h)
    refine ⟨used ++ (gap ++ [K.closing]), by simp [split], ?_, last spelled blank⟩
    simp only [List.length_append, List.length_singleton]
    omega
  · obtain ⟨⟨as, d⟩, more, rfl⟩ := map_eq_ok (read.symm.trans h)
    obtain ⟨used', split', place, spelled'⟩ := parts _ _ more
    dsimp only at split' place
    refine ⟨used ++ (left ++ ',' :: (right ++ used')), by simp [split, split'], ?_,
      others spelled blankLeft blankRight spelled'⟩
    simp only [place, List.length_append, List.length_cons]
    omega
  · cases read.symm.trans h

end Bracketed

section Meaning

variable {fuel : Nat}

lemma means_member
    (value : ∀ c r, valueAt fuel c = .ok r → Takes (fun cs v => Means cs (.value v)) c r)
    {c : Cursor} {r : (List Point × Json) × Cursor} (h : memberAt fuel c = .ok r) :
    Takes (fun cs m => Means cs (.member m)) c r := by
  obtain ⟨pos, cs⟩ := c
  obtain ⟨e, failed, -⟩ |
    ⟨name, left, right, rest, s, rfl, named, blankLeft, blankRight, -, read⟩ :=
      memberAt_cases fuel pos cs
  · cases failed.symm.trans h
  · obtain ⟨⟨v, d⟩, taken, rfl⟩ := map_eq_ok (read.symm.trans h)
    obtain ⟨used, split, place, means⟩ := value _ _ taken
    dsimp only at split place
    refine ⟨'\x22' :: (name ++ (left ++ ':' :: (right ++ used))), by simp [split], ?_,
      .member named blankLeft blankRight means⟩
    simp only [place, List.length_append, List.length_cons]
    omega

/-- What the reader takes for a value, for items and for members. -/
lemma means_all (fuel : Nat) :
    (∀ c r, valueAt fuel c = .ok r → Takes (fun cs v => Means cs (.value v)) c r) ∧
      (∀ c r, itemsAt fuel c = .ok r → Takes (fun cs vs => Means cs (.items vs)) c r) ∧
      ∀ c r, membersAt fuel c = .ok r → Takes (fun cs ms => Means cs (.members ms)) c r := by
  induction fuel with
  | zero => exact ⟨nofun, nofun, nofun⟩
  | succ fuel ih =>
    obtain ⟨value, items, members⟩ := ih
    refine ⟨?_, ?_, ?_⟩
    · rintro ⟨pos, cs⟩ r h
      obtain ⟨rest, rfl, read⟩ | ⟨rest, rfl⟩ | ⟨rest, rfl⟩ | ⟨w, rest, rfl, known, read⟩ |
        read := valueAt_cases fuel pos cs
      · obtain ⟨⟨s, c⟩, text, rfl⟩ := map_eq_ok (read.symm.trans h)
        obtain ⟨used, split, place, spelled⟩ := takes_text text
        dsimp only at split place
        refine ⟨'\x22' :: used, by simp [split], ?_, .text spelled⟩
        simp only [place, List.length_cons]
        omega
      · exact Bracketed.takes_value (K := lists) .noItems .list items h
      · exact Bracketed.takes_value (K := objects) .noMembers .object members h
      · obtain rfl := Except.ok.inj (read.symm.trans h)
        exact ⟨w.1, rfl, rfl, .word known⟩
      · have number := read.symm.trans h
        obtain failed | ⟨n, rest, rfl, found⟩ := exists_numeral pos cs
        · cases failed.symm.trans number
        · obtain ⟨v, value, rfl⟩ := map_eq_ok ((found.numberAt pos).symm.trans number)
          exact ⟨n.chars, rfl, rfl, .number found value⟩
    · intro c r h
      exact Bracketed.takes_parts (K := lists) .lastItem .moreItems value items h
    · intro c r h
      exact Bracketed.takes_parts (K := objects) .lastMember .moreMembers
        (fun c r h => means_member value h) members h

/-- What the reader takes for a value means it. -/
theorem means_value {c : Cursor} {r : Json × Cursor} (h : valueAt fuel c = .ok r) :
    Takes (fun cs v => Means cs (.value v)) c r :=
  (means_all fuel).1 c r h

/-- What the reader takes for a value spells it. -/
theorem takes_value {c : Cursor} {r : Json × Cursor} (h : valueAt fuel c = .ok r) :
    Takes Spells c r :=
  (means_value h).imp fun _ _ => Means.spelled

lemma takes_member {c : Cursor} {r : (List Point × Json) × Cursor} (h : memberAt fuel c = .ok r) :
    Takes (SpellsPart objects) c r :=
  (means_member (fun _ _ => means_value) h).imp fun _ _ => Means.spelled

end Meaning

/-! ## Whole texts -/

/-- A text is read as a value exactly if, apart from blanks around it, its characters mean the
value. -/
theorem read_eq_ok_iff {raw : List Char} {v : Json} :
    read raw = .ok v ↔ ∃ before cs after, raw = before ++ cs ++ after ∧ Blank before ∧
      Means cs (.value v) ∧ Blank after := by
  constructor
  · intro h
    obtain ⟨before, tail, rfl, blank, solid⟩ := exists_blanks raw
    have no_mark : (before ++ tail).head? ≠ some '\ufeff' := by
      intro mark
      rw [read, if_pos mark] at h
      cases h
    rw [read_append blank solid no_mark] at h
    obtain ⟨⟨v', c⟩, taken, ended⟩ := bind_eq_ok_iff.mp h
    obtain ⟨used, split, -, means⟩ := means_value taken
    dsimp only at split means
    rw [endBehind] at ended
    split at ended
    · rename_i empty
      obtain rfl := Except.ok.inj ended
      exact ⟨before, used, c.rest, by rw [split, List.append_assoc], blank, means,
        List.dropWhile_eq_nil_iff.mp (List.isEmpty_iff.mp empty)⟩
    · cases ended
  · rintro ⟨before, cs, after, rfl, blankBefore, means, blankAfter⟩
    exact read_of_spells blankBefore means.spelled blankAfter

/-- A text is read as an object exactly if it is a text of one; each name has its last value. -/
theorem read_eq_object_iff {raw : List Char} {bound : List (List Point × Json)} :
    read raw = .ok (.object bound) ↔ ∃ ms, ObjectText raw ms ∧ bound = Keyed.ofList ms := by
  simp only [read_eq_ok_iff, means_object_iff]
  constructor
  · rintro ⟨before, cs, after, split, blankBefore, ⟨ms, mentions, last⟩, blankAfter⟩
    exact ⟨ms, ⟨before, cs, after, split, blankBefore, mentions, blankAfter⟩, last⟩
  · rintro ⟨ms, ⟨before, cs, after, split, blankBefore, mentions, blankAfter⟩, last⟩
    exact ⟨before, cs, after, split, blankBefore, ⟨ms, mentions, last⟩, blankAfter⟩

/-! ## Texts that were read -/

/-- The text that a value is, the texts among its items and those among the values of its members
are settled, at every depth. -/
inductive SettledTexts : Json → Prop where
  | null : SettledTexts null
  | bool (b : Bool) : SettledTexts (bool b)
  | int (i : Int) : SettledTexts (int i)
  | float (x : Binary64) : SettledTexts (float x)
  | text {s : List Point} (settled : Settled s) : SettledTexts (text s)
  | list {items : List Json} (each : ∀ v ∈ items, SettledTexts v) : SettledTexts (list items)
  | object {members : List (List Point × Json)} (each : ∀ m ∈ members, SettledTexts m.2) :
      SettledTexts (object members)

/-- The texts in what characters mean are settled. -/
def Meaning.SettledTexts : Meaning → Prop
  | value v => v.SettledTexts
  | items vs => ∀ v ∈ vs, v.SettledTexts
  | member m => m.2.SettledTexts
  | members ms => ∀ m ∈ ms, m.2.SettledTexts

lemma settledTexts_word {w : List Char × Json} (h : w ∈ words) : w.2.SettledTexts := by
  simp only [words, List.mem_cons, List.not_mem_nil, or_false] at h
  rcases h with rfl | rfl | rfl | rfl | rfl | rfl
  · exact .null
  · exact .bool true
  · exact .bool false
  all_goals exact .float _

lemma Numeral.settledTexts {n : Numeral} {v : Json} (value : n.value = .ok v) :
    v.SettledTexts := by
  unfold Numeral.value at value
  split_ifs at value
  · cases value
    exact .int _
  · cases value
    exact .int _
  · cases value
    exact .float _

lemma Means.settledTexts {cs : List Char} {m : Meaning} (h : Means cs m) : m.SettledTexts := by
  induction h with
  | word h => exact settledTexts_word h
  | number found value => exact Numeral.settledTexts value
  | text spelled => exact .text spelled.settled
  | noItems blank => exact .list (fun _ h => absurd h List.not_mem_nil)
  | list blank _ ih => exact .list ih
  | lastItem _ blank ih => exact List.forall_mem_singleton.mpr ih
  | moreItems _ _ _ _ item others => exact List.forall_mem_cons.mpr ⟨item, others⟩
  | noMembers blank => exact .object (fun _ h => absurd h List.not_mem_nil)
  | object blank _ ih => exact .object fun m hm => ih m (Keyed.mem_of_mem_ofList hm)
  | member _ _ _ _ ih => exact ih
  | lastMember _ blank ih => exact List.forall_mem_singleton.mpr ih
  | moreMembers _ _ _ _ member others => exact List.forall_mem_cons.mpr ⟨member, others⟩

/-- The texts in what was read are settled. -/
theorem settledTexts_of_read {raw : List Char} {v : Json} (h : read raw = .ok v) :
    v.SettledTexts := by
  obtain ⟨-, cs, -, -, -, means, -⟩ := read_eq_ok_iff.mp h
  exact means.settledTexts

end TargetAssembly.Json
