import Mathlib.Data.List.Forall2
import TargetAssembly.Proofs.Json.Compound

/-!
# Values are read as they were written

Whatever the form, on one line or on several, and whatever blanks follow, reading a written value
gives the value back, provided that the reader can give it back at all: its whole numbers are short
enough, its texts do not have both halves of a surrogate pair in a row, and its objects bind each
name once.
Numbers with a point are left out; they are written in as few digits as single them out.
-/

namespace TargetAssembly.Json

open Text (Point)

/-- Values without a point in a number that the reader can give back. -/
inductive Readable : Json → Prop where
  | null : Readable null
  | bool (b : Bool) : Readable (bool b)
  | int {i : Int} (few : (Nat.toDigits 10 i.natAbs).length ≤ Decimal.maxDigits) : Readable (int i)
  | text {s : List Point} (settled : Settled s) : Readable (text s)
  | list {items : List Json} (each : ∀ v ∈ items, Readable v) : Readable (list items)
  | object {members : List (List Point × Json)} (distinct : (Keyed.keys members).Nodup)
    (named : ∀ m ∈ members, Settled m.1) (each : ∀ m ∈ members, Readable m.2) :
    Readable (object members)

/-! ## Parts and their values -/

/-- A member as it is written by some way of writing values. -/
def writtenMember (write : Json → List Char) (m : List Point × Json) : List Char :=
  writtenText m.1 ++ ':' :: ' ' :: write m.2

lemma inlineItems_eq_map (items : List Json) : inlineItems items = items.map inline := by
  induction items with
  | nil => rfl
  | cons v items ih => rw [inlineItems, ih, List.map_cons]

lemma inlineMembers_eq_map (members : List (List Point × Json)) :
    inlineMembers members = members.map (writtenMember inline) := by
  induction members with
  | nil => rfl
  | cons m members ih => rw [inlineMembers, ih, List.map_cons, writtenMember]

lemma indentedItems_eq_map (level : Nat) (items : List Json) :
    indentedItems level items = items.map (indented level) := by
  induction items with
  | nil => rfl
  | cons v items ih => rw [indentedItems, ih, List.map_cons]

lemma indentedMembers_eq_map (level : Nat) (members : List (List Point × Json)) :
    indentedMembers level members = members.map (writtenMember (indented level)) := by
  induction members with
  | nil => rfl
  | cons m members ih => rw [indentedMembers, ih, List.map_cons, writtenMember]

section Parts

variable {write : Json → List Char}

lemma spells_items {items : List Json} (each : ∀ v ∈ items, Spells (write v) v) :
    List.Forall₂ Spells (items.map write) items :=
  List.forall₂_map_left_iff.mpr (List.forall₂_same.mpr each)

lemma spells_members {members : List (List Point × Json)}
    (named : ∀ m ∈ members, Settled m.1)
    (each : ∀ m ∈ members, Spells (write m.2) m.2) :
    List.Forall₂ (SpellsPart objects) (members.map (writtenMember write)) members := by
  refine List.forall₂_map_left_iff.mpr (List.forall₂_same.mpr ?_)
  rintro ⟨name, v⟩ hm
  have spelled := spells_member (spellsText_written (named _ hm)) blank_nil blank_space (each _ hm)
  simpa [writtenMember, writtenText] using spelled

end Parts

/-! ## The two forms -/

lemma blank_newLine (level : Nat) : Blank (newLine level) := by
  simp [Blank, newLine, isBlank]

/-- A value on one line is spelled. -/
lemma spells_inline {v : Json} (readable : Readable v) : Spells v.inline v := by
  induction readable with
  | null => exact spells_null
  | bool b => exact spells_bool b
  | int few => exact spells_int few
  | text settled => exact spells_text settled
  | @list items _ ih =>
    rw [inline, inlineItems_eq_map]
    cases items with
    | nil => exact spells_empty_list
    | cons v items =>
      have spelled := spells_list blank_nil blank_space blank_nil (spells_items ih)
        (List.cons_ne_nil _ _)
      simpa using spelled
  | @object members distinct named _ ih =>
    rw [inline, inlineMembers_eq_map]
    cases members with
    | nil => exact spells_empty_object
    | cons m members =>
      have spelled := spells_object blank_nil blank_space blank_nil (spells_members named ih)
        (List.cons_ne_nil _ _) distinct
      simpa using spelled

/-- A value on several lines is spelled, at every level. -/
lemma spells_indented {v : Json} (readable : Readable v) (level : Nat) :
    Spells (v.indented level) v := by
  induction readable generalizing level with
  | null => exact spells_null
  | bool b => exact spells_bool b
  | int few => exact spells_int few
  | text settled => exact spells_text settled
  | @list items _ ih =>
    rw [indented, indentedItems_eq_map]
    cases items with
    | nil => exact spells_empty_list
    | cons v items =>
      exact spells_list (blank_newLine (level + 1)) (blank_newLine (level + 1))
        (blank_newLine level) (spells_items fun v hv => ih v hv (level + 1))
        (List.cons_ne_nil _ _)
  | @object members distinct named _ ih =>
    rw [indented, indentedMembers_eq_map]
    cases members with
    | nil => exact spells_empty_object
    | cons m members =>
      exact spells_object (blank_newLine (level + 1)) (blank_newLine (level + 1))
        (blank_newLine level) (spells_members named fun m hm => ih m hm (level + 1))
        (List.cons_ne_nil _ _) distinct

/-! ## Reading what was written -/

variable {v : Json} {after : List Char}

/-- A value on one line is read back. -/
theorem read_inline (readable : Readable v) (blank : Blank after) :
    read (v.inline ++ after) = .ok v :=
  read_of_spells blank_nil (spells_inline readable) blank

/-- A value on several lines is read back. -/
theorem read_indented (readable : Readable v) (level : Nat) (blank : Blank after) :
    read (v.indented level ++ after) = .ok v :=
  read_of_spells blank_nil (spells_indented readable level) blank

end TargetAssembly.Json

namespace TargetAssembly.Json

/-!
## Which characters a written value has

A value on one line is written with visible characters of ASCII and spaces alone, and a value on
several lines with line feeds besides: whatever else is in its texts is escaped.  So a line stays
one line, and a text that was written keeps its line ends when it is read from a file.
-/

open Text (Point)

/-- Whether a character is a visible one of ASCII or a space. -/
def isVisible (c : Char) : Bool := 0x20 ≤ c.toNat && c.toNat ≤ 0x7e

/-- Visible characters and spaces. -/
def Visible (cs : List Char) : Prop := ∀ c ∈ cs, isVisible c = true

/-- Visible characters and line feeds. -/
def Clean (cs : List Char) : Prop := ∀ c ∈ cs, c = '\n' ∨ isVisible c = true

instance (cs : List Char) : Decidable (Visible cs) :=
  List.decidableBAll (fun c => isVisible c = true) cs

instance (cs : List Char) : Decidable (Clean cs) :=
  List.decidableBAll (fun c => c = '\n' ∨ isVisible c = true) cs

lemma Visible.clean {cs : List Char} (h : Visible cs) : Clean cs := fun c hc => .inr (h c hc)

lemma Visible.append {cs ds : List Char} (h : Visible cs) (k : Visible ds) : Visible (cs ++ ds) :=
  List.forall_mem_append.mpr ⟨h, k⟩

lemma Visible.cons {c : Char} {cs : List Char} (visible : isVisible c = true) (h : Visible cs) :
    Visible (c :: cs) :=
  List.forall_mem_cons.mpr ⟨visible, h⟩

lemma visible_single {c : Char} (visible : isVisible c = true) : Visible [c] :=
  .cons visible nofun

lemma Visible.lineFeed_not_mem {cs : List Char} (h : Visible cs) : '\n' ∉ cs := by
  intro mem
  have no : ¬ isVisible '\n' = true := by decide
  exact no (h _ mem)

lemma Clean.return_not_mem {cs : List Char} (h : Clean cs) : '\r' ∉ cs := by
  intro mem
  have no : ¬ ('\r' = '\n' ∨ isVisible '\r' = true) := by decide
  exact no (h _ mem)

/-- All these characters are of ASCII. -/
lemma Clean.lt {cs : List Char} (h : Clean cs) {c : Char} (mem : c ∈ cs) : c.toNat < 0x80 := by
  rcases h c mem with rfl | visible
  · decide
  · simp only [isVisible, Bool.and_eq_true, decide_eq_true_eq] at visible
    omega

lemma Clean.append {cs ds : List Char} (h : Clean cs) (k : Clean ds) : Clean (cs ++ ds) :=
  List.forall_mem_append.mpr ⟨h, k⟩

lemma Clean.cons {c : Char} {cs : List Char} (visible : isVisible c = true) (h : Clean cs) :
    Clean (c :: cs) :=
  List.forall_mem_cons.mpr ⟨.inr visible, h⟩

lemma clean_single {c : Char} (visible : isVisible c = true) : Clean [c] :=
  (visible_single visible).clean

/-! ### Texts -/

lemma visible_escapeCode (code : Nat) : Visible (escapeCode code) := by
  have digit (n : Nat) : isVisible (Text.hexDigit (n % 16)) = true := by
    have digits : ∀ k < 16, isVisible (Text.hexDigit k) = true := by decide
    exact digits _ (Nat.mod_lt n (by decide))
  have four : Visible (Text.hexDigits 4 code) :=
    .cons (digit _) (.cons (digit _) (.cons (digit _) (visible_single (digit _))))
  exact .cons (by decide) (.cons (by decide) four)

lemma visible_escapeNumber (code : Nat) : Visible (escapeNumber code) := by
  unfold escapeNumber
  split_ifs
  · exact visible_escapeCode _
  · exact (visible_escapeCode _).append (visible_escapeCode _)

lemma visible_escapePoint (p : Point) : Visible (escapePoint p) := by
  unfold escapePoint
  split
  case h_8 =>
    split
    case isTrue visible => exact visible_single (by simpa [isVisible] using visible)
    case isFalse => exact visible_escapeNumber _
  case h_9 => exact visible_escapeNumber _
  all_goals decide

lemma visible_writtenText (s : List Point) : Visible (writtenText s) := by
  have points : Visible (s.flatMap escapePoint) := by
    intro c hc
    obtain ⟨p, -, hp⟩ := List.mem_flatMap.mp hc
    exact visible_escapePoint p c hp
  exact (Visible.cons (by decide) points).append (visible_single (by decide))

/-! ### Numbers -/

lemma visible_toDigits (n : Nat) : Visible (Nat.toDigits 10 n) := by
  intro c hc
  have digit := Nat.isDigit_of_mem_toDigits (by decide) (by decide) hc
  simp only [Char.isDigit, Bool.and_eq_true, decide_eq_true_eq, ge_iff_le,
    UInt32.le_iff_toNat_le] at digit
  obtain ⟨least, most⟩ : 48 ≤ c.toNat ∧ c.toNat ≤ 57 := digit
  have visible : 0x20 ≤ c.toNat ∧ c.toNat ≤ 0x7e := by omega
  simpa [isVisible] using visible

lemma visible_int (i : Int) : Visible (toString i).toList := by
  cases i with
  | ofNat n =>
    rw [toList_ofNat]
    exact visible_toDigits n
  | negSucc n =>
    rw [toList_negSucc]
    exact .cons (by decide) (visible_toDigits _)

lemma visible_bool : ∀ b : Bool, Visible (if b then "true" else "false").toList := by
  decide

lemma visible_null : Visible "null".toList := by
  decide

/-! ### Parts -/

lemma mem_separated {separator : List Char} {parts : List (List Char)} {c : Char}
    (h : c ∈ separated separator parts) : c ∈ separator ∨ ∃ part ∈ parts, c ∈ part := by
  induction parts with
  | nil => cases h
  | cons part parts ih =>
    cases parts with
    | nil => exact .inr ⟨part, List.mem_singleton_self _, h⟩
    | cons next parts =>
      have pieces : c ∈ part ++ separator ++ separated separator (next :: parts) := h
      rw [List.mem_append, List.mem_append] at pieces
      rcases pieces with (own | between) | later
      · exact .inr ⟨part, List.mem_cons_self, own⟩
      · exact .inl between
      · exact (ih later).imp_right fun ⟨other, mem, hc⟩ => ⟨other, List.mem_cons_of_mem _ mem, hc⟩

lemma visible_separated {separator : List Char} {parts : List (List Char)}
    (between : Visible separator) (each : ∀ part ∈ parts, Visible part) :
    Visible (separated separator parts) := by
  intro c hc
  rcases mem_separated hc with h | ⟨part, mem, h⟩
  · exact between c h
  · exact each part mem c h

lemma clean_separated {separator : List Char} {parts : List (List Char)} (between : Clean separator)
    (each : ∀ part ∈ parts, Clean part) : Clean (separated separator parts) := by
  intro c hc
  rcases mem_separated hc with h | ⟨part, mem, h⟩
  · exact between c h
  · exact each part mem c h

/-! ### One line -/

/-- A value on one line is written with visible characters and spaces. -/
theorem visible_inline {v : Json} (readable : Readable v) : Visible v.inline := by
  induction readable with
  | null => exact visible_null
  | bool b => exact visible_bool b
  | @int i few => exact visible_int i
  | text settled => exact visible_writtenText _
  | @list items _ ih =>
    rw [inline, inlineItems_eq_map]
    have parts := visible_separated (by decide : Visible [',', ' ']) (List.forall_mem_map.mpr ih)
    exact (Visible.cons (by decide) parts).append (visible_single (by decide))
  | @object members _ _ _ ih =>
    rw [inline, inlineMembers_eq_map]
    have each : ∀ part ∈ members.map (writtenMember inline), Visible part := by
      rw [List.forall_mem_map]
      intro m hm
      exact (visible_writtenText m.1).append (.cons (by decide) (.cons (by decide) (ih m hm)))
    have parts := visible_separated (by decide : Visible [',', ' ']) each
    exact (Visible.cons (by decide) parts).append (visible_single (by decide))

/-! ### Several lines -/

lemma clean_newLine (level : Nat) : Clean (newLine level) := by
  refine List.forall_mem_cons.mpr ⟨.inl rfl, fun c hc => ?_⟩
  rw [List.eq_of_mem_replicate hc]
  exact .inr (by decide)

lemma clean_onLines {left right : Char} (opens : isVisible left = true)
    (closes : isVisible right = true) (level : Nat) {parts : List (List Char)}
    (each : ∀ part ∈ parts, Clean part) : Clean (onLines left right level parts) := by
  unfold onLines
  split_ifs
  · exact .cons opens (clean_single closes)
  · have between : Clean (',' :: newLine (level + 1)) := .cons (by decide) (clean_newLine _)
    exact (((Clean.cons opens (clean_newLine _)).append (clean_separated between each)).append
      (clean_newLine level)).append (clean_single closes)

/-- A value on several lines is written with visible characters and line feeds. -/
theorem clean_indented {v : Json} (readable : Readable v) (level : Nat) :
    Clean (v.indented level) := by
  induction readable generalizing level with
  | null => exact visible_null.clean
  | bool b => exact (visible_bool b).clean
  | @int i few => exact (visible_int i).clean
  | text settled => exact (visible_writtenText _).clean
  | @list items _ ih =>
    rw [indented, indentedItems_eq_map]
    refine clean_onLines (by decide) (by decide) level ?_
    rw [List.forall_mem_map]
    exact fun v hv => ih v hv (level + 1)
  | @object members _ _ _ ih =>
    rw [indented, indentedMembers_eq_map]
    refine clean_onLines (by decide) (by decide) level ?_
    rw [List.forall_mem_map]
    intro m hm
    exact (visible_writtenText m.1).clean.append (.cons (by decide) (.cons (by decide) (ih m hm _)))

end TargetAssembly.Json
