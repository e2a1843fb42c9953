import TargetAssembly.Proofs.Json.Numeral
import TargetAssembly.Proofs.KeyedLookup

/-!
# How lists and objects are spelled

Lists and objects are read in the same way: parts between commas, up to a closing bracket.
`Bracketed` says what the two have in common, so each of the lemmas is stated once: one for the last
part, one for a part that another follows, and by induction on the parts one for all of them.  How
many blanks stand behind brackets and around commas and colons is left open: every form of the
writer is a choice of them.  The steps of the reader are equations that hold whatever reading on
comes to, so that they serve where it fails as well.
-/

namespace TargetAssembly.Json

open Text (Point)

/-! ## Values in brackets -/

/-- What the reader does behind a part: it stops at the closing bracket and goes on at a comma. -/
def partBehind {α : Type} (closing : Char) (parts : Cursor → Except ReadError (List α × Cursor))
    (part : α) (c : Cursor) : Except ReadError (List α × Cursor) :=
  let c := c.skipBlanks
  match c.rest with
  | [] => fail .expectingComma c.position
  | d :: rest =>
    if d = closing then .ok ([part], ⟨c.position + 1, rest⟩)
    else if d = ',' then
      (parts (Cursor.skipBlanks ⟨c.position + 1, rest⟩)).map fun r => (part :: r.1, r.2)
    else fail .expectingComma c.position

/-- A kind of values in brackets, and how the reader reads a part of such a value and all parts. -/
structure Bracketed (α : Type) where
  opening : Char
  closing : Char
  value : List α → Json
  part : Nat → Cursor → Except ReadError (α × Cursor)
  parts : Nat → Cursor → Except ReadError (List α × Cursor)
  solid : isBlank closing = false
  ends : prolongs closing = false
  no_comma : closing ≠ ','
  no_start {c : Char} (no : isBlank c = true ∨ c = closing) (fuel pos : Nat) (rest : List Char) :
    ∃ e, part fuel ⟨pos, c :: rest⟩ = .error e
  valueAt_succ (fuel pos : Nat) (rest : List Char) :
    valueAt (fuel + 1) ⟨pos, opening :: rest⟩ =
      let c := Cursor.skipBlanks ⟨pos + 1, rest⟩
      if c.rest.head? = some closing then .ok (value [], ⟨c.position + 1, c.rest.tail⟩)
      else (parts fuel c).map fun r => (value r.1, r.2)
  parts_zero (c : Cursor) : ∃ e, parts 0 c = .error e
  parts_succ (fuel : Nat) (c : Cursor) :
    parts (fuel + 1) c = part fuel c >>= fun r => partBehind closing (parts fuel) r.1 r.2

/-! ## Lists -/

/-- What the reader does behind an item. -/
def itemsBehind (fuel : Nat) (item : Json) (c : Cursor) : Except ReadError (List Json × Cursor) :=
  let c := c.skipBlanks
  match c.rest with
  | ']' :: rest => return ([item], ⟨c.position + 1, rest⟩)
  | ',' :: rest => do
    let (items, c) ← itemsAt fuel (Cursor.skipBlanks ⟨c.position + 1, rest⟩)
    return (item :: items, c)
  | _ => fail .expectingComma c.position

lemma itemsBehind_eq (fuel : Nat) (item : Json) (c : Cursor) :
    itemsBehind fuel item c = partBehind ']' (itemsAt fuel) item c := by
  rw [itemsBehind, partBehind]
  generalize c.skipBlanks = c
  obtain ⟨p, cs⟩ := c
  cases cs with
  | nil => rfl
  | cons d cs =>
    by_cases close : d = ']'
    · subst close
      rfl
    · by_cases comma : d = ','
      · subst comma
        cases behind : itemsAt fuel (Cursor.skipBlanks ⟨p + 1, cs⟩) <;>
          simp [behind, bind, Except.bind, Except.map, pure, Except.pure]
      · simp [close, comma]

/-- Lists. -/
def lists : Bracketed Json where
  opening := '['
  closing := ']'
  value := list
  part := valueAt
  parts := itemsAt
  solid := by decide
  ends := by decide
  no_comma := by decide
  no_start no fuel pos rest := ⟨_, valueAt_no_start (no.imp_right .inl) fuel pos rest⟩
  valueAt_succ fuel pos rest := by
    simp only [valueAt]
    generalize Cursor.skipBlanks ⟨pos + 1, rest⟩ = c
    obtain ⟨p, cs⟩ := c
    cases cs with
    | nil => rfl
    | cons d cs => by_cases close : d = ']' <;> simp [close]
  parts_zero c := ⟨_, rfl⟩
  parts_succ fuel c := by
    simp only [← itemsBehind_eq]
    rw [itemsAt]
    rfl

/-! ## Objects -/

/-- What the reader does with the rest of a member, behind its name. -/
def valueBehind (fuel : Nat) (name : List Point) (c : Cursor) :
    Except ReadError ((List Point × Json) × Cursor) :=
  let c := c.skipBlanks
  match c.rest with
  | ':' :: rest =>
    (valueAt fuel (Cursor.skipBlanks ⟨c.position + 1, rest⟩)).map fun r => ((name, r.1), r.2)
  | _ => fail .expectingColon c.position

/-- What the reader does with a member: a name, a colon and a value. -/
def memberAt (fuel : Nat) (c : Cursor) : Except ReadError ((List Point × Json) × Cursor) :=
  match c.rest with
  | '\x22' :: rest =>
    textAt c.position (c.position + 1) rest >>= fun r => valueBehind fuel r.1 r.2
  | _ => fail .expectingName c.position

/-- What the reader does behind a member. -/
def membersBehind (fuel : Nat) (m : List Point × Json) (c : Cursor) :
    Except ReadError (List (List Point × Json) × Cursor) :=
  let c := c.skipBlanks
  match c.rest with
  | '\x7d' :: rest => return ([m], ⟨c.position + 1, rest⟩)
  | ',' :: rest => do
    let (members, c) ← membersAt fuel (Cursor.skipBlanks ⟨c.position + 1, rest⟩)
    return (m :: members, c)
  | _ => fail .expectingComma c.position

lemma membersBehind_eq (fuel : Nat) (m : List Point × Json) (c : Cursor) :
    membersBehind fuel m c = partBehind '\x7d' (membersAt fuel) m c := by
  rw [membersBehind, partBehind]
  generalize c.skipBlanks = c
  obtain ⟨p, cs⟩ := c
  cases cs with
  | nil => rfl
  | cons d cs =>
    by_cases close : d = '\x7d'
    · subst close
      rfl
    · by_cases comma : d = ','
      · subst comma
        cases behind : membersAt fuel (Cursor.skipBlanks ⟨p + 1, cs⟩) <;>
          simp [behind, bind, Except.bind, Except.map, pure, Except.pure]
      · simp [close, comma]

lemma membersAt_succ (fuel : Nat) (c : Cursor) :
    membersAt (fuel + 1) c = memberAt fuel c >>= fun r => membersBehind fuel r.1 r.2 := by
  obtain ⟨pos, cs⟩ := c
  cases cs with
  | nil => rfl
  | cons d rest =>
    by_cases quote : d = '\x22'
    · subst quote
      simp only [membersAt, memberAt]
      cases textAt pos (pos + 1) rest with
      | error e => rfl
      | ok r =>
        obtain ⟨name, c⟩ := r
        simp only [bind, Except.bind, valueBehind]
        generalize c.skipBlanks = c
        obtain ⟨p, cs⟩ := c
        cases cs with
        | nil => rfl
        | cons d cs =>
          by_cases colon : d = ':'
          · subst colon
            cases value : valueAt fuel (Cursor.skipBlanks ⟨p + 1, cs⟩) with
            | error e => simp only [value, Except.map]
            | ok r =>
              simp only [value, Except.map]
              rfl
          · simp [colon, fail]
    · simp [membersAt, memberAt, quote, fail, bind, Except.bind]

/-- Objects. -/
def objects : Bracketed (List Point × Json) where
  opening := '\x7b'
  closing := '\x7d'
  value ms := object (Keyed.ofList ms)
  part := memberAt
  parts := membersAt
  solid := by decide
  ends := by decide
  no_comma := by decide
  no_start {c} no fuel pos rest := by
    have quote : c ≠ '\x22' := by
      rintro rfl
      rcases no with blank | close
      · cases blank
      · cases close
    exact ⟨.malformed .expectingName pos, by simp [memberAt, quote, fail]⟩
  valueAt_succ fuel pos rest := by
    have none : Keyed.ofList ([] : List (List Point × Json)) = [] := rfl
    simp only [valueAt]
    generalize Cursor.skipBlanks ⟨pos + 1, rest⟩ = c
    obtain ⟨p, cs⟩ := c
    cases cs with
    | nil => rfl
    | cons d cs => by_cases close : d = '\x7d' <;> simp [close, none]
  parts_zero c := ⟨_, rfl⟩
  parts_succ fuel c := by
    simp only [← membersBehind_eq, membersAt_succ]

/-! ## Steps -/

/-- The reader takes exactly these characters for a part. -/
def SpellsPart {α : Type} (K : Bracketed α) (cs : List Char) (a : α) : Prop :=
  ∀ fuel pos rest, cs.length ≤ fuel → Ends rest →
    K.part fuel ⟨pos, cs ++ rest⟩ = .ok (a, ⟨pos + cs.length, rest⟩)

/-- The reader takes exactly these characters, up to the closing bracket, for all parts. -/
def SpellsParts {α : Type} (K : Bracketed α) (cs : List Char) (as : List α) : Prop :=
  ∀ fuel pos rest, cs.length ≤ fuel →
    K.parts fuel ⟨pos, cs ++ rest⟩ = .ok (as, ⟨pos + cs.length, rest⟩)

namespace Bracketed

variable {α : Type} {K : Bracketed α} {gap left right : List Char}

section Steps

variable (blankGap : Blank gap) (blankLeft : Blank left) (blankRight : Blank right)

include blankGap in
lemma partBehind_close (parts : Cursor → Except ReadError (List α × Cursor)) (a : α) (pos : Nat)
    (rest : List Char) :
    partBehind K.closing parts a ⟨pos, gap ++ K.closing :: rest⟩ =
      .ok ([a], ⟨pos + gap.length + 1, rest⟩) := by
  rw [partBehind, skipBlanks_append blankGap (solid_cons K.solid _)]
  simp only [if_true]

include blankLeft blankRight in
lemma partBehind_comma {rest : List Char} (solid : Solid rest)
    (parts : Cursor → Except ReadError (List α × Cursor)) (a : α) (pos : Nat) :
    partBehind K.closing parts a ⟨pos, left ++ ',' :: (right ++ rest)⟩ =
      (parts ⟨pos + left.length + 1 + right.length, rest⟩).map fun r => (a :: r.1, r.2) := by
  have behind := skipBlanks_append blankRight solid (pos + left.length + 1)
  rw [partBehind, skipBlanks_append blankLeft (solid_cons (by decide) _)]
  simp only [behind, if_neg K.no_comma.symm, if_true]

include blankGap in
lemma valueAt_parts {rest : List Char} (solid : Solid rest)
    (not_close : rest.head? ≠ some K.closing) (fuel pos : Nat) :
    valueAt (fuel + 1) ⟨pos, K.opening :: (gap ++ rest)⟩ =
      (K.parts fuel ⟨pos + 1 + gap.length, rest⟩).map fun r => (K.value r.1, r.2) := by
  rw [K.valueAt_succ, skipBlanks_append blankGap solid]
  exact if_neg not_close

include blankGap in
lemma valueAt_none (fuel pos : Nat) (rest : List Char) :
    valueAt (fuel + 1) ⟨pos, K.opening :: (gap ++ K.closing :: rest)⟩ =
      .ok (K.value [], ⟨pos + 1 + gap.length + 1, rest⟩) := by
  rw [K.valueAt_succ, skipBlanks_append blankGap (solid_cons K.solid _)]
  exact if_pos rfl

end Steps

/-! ## Spelling in parts -/

/-- Neither a blank nor a closing bracket starts the parts. -/
lemma starts_of_spellsParts {cs : List Char} {as : List α} (h : SpellsParts K cs as)
    (rest : List Char) : Solid (cs ++ rest) ∧ (cs ++ rest).head? ≠ some K.closing := by
  cases cs with
  | nil =>
    obtain ⟨e, failed⟩ := K.parts_zero ⟨0, [] ++ []⟩
    cases failed.symm.trans (h 0 0 [] (Nat.le_refl 0))
  | cons c tail =>
    have taken := h (tail.length + 1) 0 [] (Nat.le_refl _)
    have starts : ¬ (isBlank c = true ∨ c = K.closing) := by
      intro no
      obtain ⟨e, failed⟩ := K.no_start no tail.length 0 (tail ++ [])
      rw [K.parts_succ, List.cons_append, failed] at taken
      cases taken
    rw [not_or, Bool.not_eq_true] at starts
    exact ⟨solid_cons starts.1 _, fun close => starts.2 (Option.some.inj close)⟩

section Spelling

variable (blankGap : Blank gap) (blankLeft : Blank left) (blankRight : Blank right)

include blankGap in
lemma spellsParts_last {cs : List Char} {a : α} (part : SpellsPart K cs a) :
    SpellsParts K (cs ++ (gap ++ [K.closing])) [a] := by
  intro fuel pos rest enough
  simp only [List.length_append, List.length_singleton] at enough ⊢
  obtain ⟨fuel, rfl⟩ := Nat.exists_eq_add_of_le' (show 1 ≤ fuel by omega)
  have ends : Ends (gap ++ K.closing :: rest) := ends_blank blankGap (ends_cons K.ends _)
  have read := part fuel pos (gap ++ K.closing :: rest) (by omega) ends
  simp only [List.append_assoc, List.singleton_append, K.parts_succ, read, bind, Except.bind,
    partBehind_close blankGap, Nat.add_assoc]

include blankLeft blankRight in
lemma spellsParts_more {cs ds : List Char} {a : α} {as : List α} (part : SpellsPart K cs a)
    (parts : SpellsParts K ds as) :
    SpellsParts K (cs ++ (left ++ ',' :: (right ++ ds))) (a :: as) := by
  intro fuel pos rest enough
  simp only [List.length_append, List.length_cons] at enough ⊢
  obtain ⟨fuel, rfl⟩ := Nat.exists_eq_add_of_le' (show 1 ≤ fuel by omega)
  have ends : Ends (left ++ ',' :: (right ++ (ds ++ rest))) :=
    ends_blank blankLeft (ends_cons (by decide) _)
  have read := part fuel pos _ (by omega) ends
  -- the comma makes up for the step that is gone when the next parts are read
  have behind := parts fuel (pos + cs.length + left.length + 1 + right.length) rest (by omega)
  simp only [List.append_assoc, List.cons_append, K.parts_succ, read, bind, Except.bind,
    partBehind_comma blankLeft blankRight (starts_of_spellsParts parts rest).1, behind, Except.map]
  simp only [Nat.add_assoc, Nat.add_comm 1]

include blankGap in
lemma spells_of_parts {cs : List Char} {as : List α} (parts : SpellsParts K cs as) :
    Spells (K.opening :: (gap ++ cs)) (K.value as) := by
  intro fuel pos rest enough _
  simp only [List.length_append, List.length_cons] at enough ⊢
  obtain ⟨fuel, rfl⟩ := Nat.exists_eq_add_of_le' (show 1 ≤ fuel by omega)
  obtain ⟨solid, not_close⟩ := starts_of_spellsParts parts rest
  have read := parts fuel (pos + 1 + gap.length) rest (by omega)
  simp only [List.cons_append, List.append_assoc, valueAt_parts blankGap solid not_close, read,
    Except.map]
  simp only [Nat.add_assoc, Nat.add_comm 1]

include blankGap in
lemma spells_none : Spells (K.opening :: (gap ++ [K.closing])) (K.value []) := by
  intro fuel pos rest enough _
  simp only [List.length_append, List.length_cons, List.length_nil] at enough ⊢
  obtain ⟨fuel, rfl⟩ := Nat.exists_eq_add_of_le' (show 1 ≤ fuel by omega)
  simp only [List.cons_append, List.append_assoc, List.nil_append, valueAt_none blankGap]
  simp only [Nat.add_assoc, Nat.add_comm 1]

end Spelling

end Bracketed

lemma separated_more (separator part next : List Char) (parts : List (List Char)) :
    separated separator (part :: next :: parts) =
      part ++ (separator ++ separated separator (next :: parts)) :=
  List.append_assoc part separator _

namespace Bracketed

variable {α : Type} {K : Bracketed α} {gap left right : List Char}

/-- Parts between commas, up to the closing bracket. -/
lemma spellsParts_separated (blankGap : Blank gap) (blankRight : Blank right)
    {parts : List (List Char)} {as : List α} (spelled : List.Forall₂ (SpellsPart K) parts as)
    (some_part : parts ≠ []) :
    SpellsParts K (separated (',' :: right) parts ++ (gap ++ [K.closing])) as := by
  induction spelled with
  | nil => exact absurd rfl some_part
  | @cons part a parts as first others ih =>
    cases others with
    | nil => exact spellsParts_last blankGap first
    | @cons next b parts bs second others =>
      have more := spellsParts_more blank_nil blankRight first (ih (List.cons_ne_nil _ _))
      rw [separated_more]
      simpa using more

/-- A value in brackets is spelled by its parts, with blanks behind its brackets and commas. -/
lemma spells_separated (blankLeft : Blank left) (blankRight : Blank right) (blankGap : Blank gap)
    {parts : List (List Char)} {as : List α} (spelled : List.Forall₂ (SpellsPart K) parts as)
    (some_part : parts ≠ []) :
    Spells (K.opening :: left ++ separated (',' :: right) parts ++ gap ++ [K.closing])
      (K.value as) := by
  have all := spellsParts_separated blankGap blankRight spelled some_part
  simpa using spells_of_parts blankLeft all

end Bracketed

/-! ## Members -/

section Member

variable {name left right : List Char} {s : List Point} (named : SpellsText name s)
  (blankLeft : Blank left) (blankRight : Blank right)

include named blankLeft blankRight

lemma memberAt_name {rest : List Char} (solid : Solid rest) (fuel pos : Nat) :
    memberAt fuel ⟨pos, '\x22' :: (name ++ (left ++ ':' :: (right ++ rest)))⟩ =
      (valueAt fuel ⟨pos + 1 + name.length + left.length + 1 + right.length, rest⟩).map
        fun r => ((s, r.1), r.2) := by
  have colon := skipBlanks_append blankLeft (solid_cons (c := ':') (by decide) (right ++ rest))
    (pos + 1 + name.length)
  have value := skipBlanks_append blankRight solid (pos + 1 + name.length + left.length + 1)
  have text := named pos (pos + 1) (left ++ ':' :: (right ++ rest))
  simp only [memberAt, text, bind, Except.bind, valueBehind, colon, value]

/-- A name in quotes, a colon and the characters of a value spell a member. -/
lemma spells_member {tail : List Char} {v : Json} (value : Spells tail v) :
    SpellsPart objects ('\x22' :: (name ++ (left ++ ':' :: (right ++ tail)))) (s, v) := by
  intro fuel pos rest enough ends
  simp only [List.length_append, List.length_cons] at enough ⊢
  have member := memberAt_name named blankLeft blankRight (value.solid rest) fuel pos
  have read := value fuel (pos + 1 + name.length + left.length + 1 + right.length) rest (by omega)
    ends
  rw [read] at member
  simp only [List.cons_append, List.append_assoc]
  refine member.trans ?_
  simp only [Except.map, Nat.add_assoc, Nat.add_comm 1]

end Member

/-! ## Lists and objects -/

section Whole

variable {gap left right : List Char} (blankLeft : Blank left) (blankRight : Blank right)
  (blankGap : Blank gap) {parts : List (List Char)}

include blankLeft blankRight blankGap

/-- A list is spelled by its items, with blanks behind its brackets and commas. -/
lemma spells_list {vs : List Json} (spelled : List.Forall₂ Spells parts vs)
    (some_part : parts ≠ []) :
    Spells ('[' :: left ++ separated (',' :: right) parts ++ gap ++ [']']) (list vs) :=
  Bracketed.spells_separated (K := lists) blankLeft blankRight blankGap spelled some_part

/-- An object is spelled by its members, with blanks behind its braces and commas. -/
lemma spells_object {ms : List (List Point × Json)}
    (spelled : List.Forall₂ (SpellsPart objects) parts ms) (some_part : parts ≠ [])
    (distinct : (Keyed.keys ms).Nodup) :
    Spells ('\x7b' :: left ++ separated (',' :: right) parts ++ gap ++ ['\x7d'])
      (object ms) := by
  have whole := Bracketed.spells_separated (K := objects) blankLeft blankRight blankGap spelled
    some_part
  have same : objects.value ms = object ms := congrArg object (Keyed.ofList_eq_self distinct)
  rwa [same] at whole

end Whole

lemma spells_empty_list : Spells ['[', ']'] (list []) :=
  Bracketed.spells_none (K := lists) blank_nil

lemma spells_empty_object : Spells ['\x7b', '\x7d'] (object []) :=
  Bracketed.spells_none (K := objects) blank_nil

end TargetAssembly.Json
