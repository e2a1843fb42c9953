import TargetAssembly.Proofs.Json.Compound

/-!
# What characters mean

`Means` is the grammar of the reader: which characters mean a value, the items of a list, a member
of an object, or its members, one constructor for each way to put them together.  Blanks are part of
the characters, wherever they may stand.  Members are kept as they come, a name as often as it is
mentioned; only the object that they make binds each name once.  `Means.spelled` says that the
reader takes the characters for what they mean.
-/

namespace TargetAssembly.Json

open Text (Point)

/-- What characters can mean: a value, or a part of one.  Items and members go on to the closing
bracket. -/
inductive Meaning where
  /-- A value. -/
  | value (v : Json)
  /-- The items of a list. -/
  | items (vs : List Json)
  /-- A member of an object. -/
  | member (m : List Point × Json)
  /-- The members of an object. -/
  | members (ms : List (List Point × Json))

/-- Characters and what they mean. -/
inductive Means : List Char → Meaning → Prop where
  | word {w : List Char × Json} (h : w ∈ words) : Means w.1 (.value w.2)
  | number {n : Numeral} {rest : List Char} {v : Json} (found : n.Before rest)
    (value : n.value = .ok v) : Means n.chars (.value v)
  | text {cs : List Char} {s : List Point} (spelled : SpellsText cs s) :
    Means ('\x22' :: cs) (.value (.text s))
  | noItems {gap : List Char} (blank : Blank gap) :
    Means ('[' :: (gap ++ [']'])) (.value (.list []))
  | list {gap cs : List Char} {vs : List Json} (blank : Blank gap) (items : Means cs (.items vs)) :
    Means ('[' :: (gap ++ cs)) (.value (.list vs))
  | lastItem {cs gap : List Char} {v : Json} (item : Means cs (.value v)) (blank : Blank gap) :
    Means (cs ++ (gap ++ [']'])) (.items [v])
  | moreItems {cs left right ds : List Char} {v : Json} {vs : List Json}
    (item : Means cs (.value v)) (blankLeft : Blank left) (blankRight : Blank right)
    (others : Means ds (.items vs)) :
    Means (cs ++ (left ++ ',' :: (right ++ ds))) (.items (v :: vs))
  | noMembers {gap : List Char} (blank : Blank gap) :
    Means ('\x7b' :: (gap ++ ['\x7d'])) (.value (.object []))
  | object {gap cs : List Char} {ms : List (List Point × Json)} (blank : Blank gap)
    (members : Means cs (.members ms)) :
    Means ('\x7b' :: (gap ++ cs)) (.value (.object (Keyed.ofList ms)))
  | member {name left right cs : List Char} {s : List Point} {v : Json}
    (named : SpellsText name s) (blankLeft : Blank left) (blankRight : Blank right)
    (value : Means cs (.value v)) :
    Means ('\x22' :: (name ++ (left ++ ':' :: (right ++ cs)))) (.member (s, v))
  | lastMember {cs gap : List Char} {m : List Point × Json} (member : Means cs (.member m))
    (blank : Blank gap) : Means (cs ++ (gap ++ ['\x7d'])) (.members [m])
  | moreMembers {cs left right ds : List Char} {m : List Point × Json}
    {ms : List (List Point × Json)} (member : Means cs (.member m)) (blankLeft : Blank left)
    (blankRight : Blank right) (others : Means ds (.members ms)) :
    Means (cs ++ (left ++ ',' :: (right ++ ds))) (.members (m :: ms))

/-- Characters of an object that mentions these members, in this order. -/
inductive Mentions : List Char → List (List Point × Json) → Prop where
  | none {gap : List Char} (blank : Blank gap) : Mentions ('\x7b' :: (gap ++ ['\x7d'])) []
  | some {gap cs : List Char} {ms : List (List Point × Json)} (blank : Blank gap)
    (members : Means cs (.members ms)) : Mentions ('\x7b' :: (gap ++ cs)) ms

/-- A text of an object that mentions these members, in this order. -/
def ObjectText (raw : List Char) (ms : List (List Point × Json)) : Prop :=
  ∃ before cs after, raw = before ++ cs ++ after ∧ Blank before ∧ Mentions cs ms ∧ Blank after

/-- An object binds each name that it mentions to the last value. -/
lemma means_object_iff {cs : List Char} {bound : List (List Point × Json)} :
    Means cs (.value (.object bound)) ↔ ∃ ms, Mentions cs ms ∧ bound = Keyed.ofList ms := by
  constructor
  · intro h
    generalize whole : Meaning.value (.object bound) = m at h
    cases h with
    | word known =>
      simp only [words, List.mem_cons, List.not_mem_nil, or_false] at known
      rcases known with rfl | rfl | rfl | rfl | rfl | rfl <;> cases whole
    | number found value =>
      obtain rfl := Meaning.value.inj whole
      unfold Numeral.value at value
      split_ifs at value
      all_goals cases value
    | noMembers blank =>
      obtain rfl := Json.object.inj (Meaning.value.inj whole)
      exact ⟨[], .none blank, rfl⟩
    | object blank members =>
      exact ⟨_, .some blank members, Json.object.inj (Meaning.value.inj whole)⟩
    | _ => cases whole
  · rintro ⟨ms, mentions, rfl⟩
    cases mentions with
    | none blank => exact .noMembers blank
    | some blank members => exact .object blank members

/-- The reader takes exactly these characters for what they mean. -/
def Meaning.Spelled (cs : List Char) : Meaning → Prop
  | value v => Spells cs v
  | items vs => SpellsParts lists cs vs
  | member m => SpellsPart objects cs m
  | members ms => SpellsParts objects cs ms

theorem Means.spelled {cs : List Char} {m : Meaning} (h : Means cs m) : m.Spelled cs := by
  induction h with
  | word h => exact spells_word h
  | number found value => exact spells_numeral found value
  | text spelled => exact spells_quoted spelled
  | noItems blank => exact Bracketed.spells_none (K := lists) blank
  | list blank _ ih => exact Bracketed.spells_of_parts (K := lists) blank ih
  | lastItem _ blank ih => exact Bracketed.spellsParts_last (K := lists) blank ih
  | moreItems _ blankLeft blankRight _ item others =>
    exact Bracketed.spellsParts_more (K := lists) blankLeft blankRight item others
  | noMembers blank => exact Bracketed.spells_none (K := objects) blank
  | object blank _ ih => exact Bracketed.spells_of_parts (K := objects) blank ih
  | member named blankLeft blankRight _ ih => exact spells_member named blankLeft blankRight ih
  | lastMember _ blank ih => exact Bracketed.spellsParts_last (K := objects) blank ih
  | moreMembers _ blankLeft blankRight _ member others =>
    exact Bracketed.spellsParts_more (K := objects) blankLeft blankRight member others

end TargetAssembly.Json
