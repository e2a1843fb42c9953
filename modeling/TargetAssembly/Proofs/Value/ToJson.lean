import TargetAssembly.Proofs.Json.RoundTrip
import TargetAssembly.Proofs.KeyedLookup
import TargetAssembly.Proofs.Value.Written
import TargetAssembly.Value.ToJson

/-!
# Values that JSON can hold

A value made of JSON's own types is written as JSON, and what is written shows it: lists of both
kinds as lists, and mappings of texts as objects with their members in the order of their names.
The reader can give such a JSON value back.  `Shows` relates the two without a look at how the
members were put in order.
-/

namespace TargetAssembly

open Text (Point)

/-! ## What a JSON value shows -/

namespace Value

/-- Values made of what JSON has: no whole number is too long to be read back, and the keys of a
mapping are texts, each of which is bound once. -/
inductive Exportable : Value → Prop where
  | null : Exportable null
  | bool (b : Bool) : Exportable (bool b)
  | int {i : Int} (few : (Nat.toDigits 10 i.natAbs).length ≤ Decimal.maxDigits) :
      Exportable (int i)
  | text (s : String) : Exportable (text s)
  | list {items : List Value} (each : ∀ v ∈ items, Exportable v) : Exportable (list items)
  | tuple {items : List Value} (each : ∀ v ∈ items, Exportable v) : Exportable (tuple items)
  | mapping {named : List (String × Value)} (once : (Keyed.keys named).Nodup)
      (each : ∀ e ∈ named, Exportable e.2) : Exportable (ofNamed named)

lemma ofNamed_injective : Function.Injective ofNamed := by
  have entry : Function.Injective fun e : String × Value => (text e.1, e.2) := by
    rintro ⟨m, v⟩ ⟨n, w⟩ same
    cases same
    rfl
  intro named named' same
  exact List.map_injective_iff.mpr entry (Value.mapping.inj same).2

end Value

namespace Json

/-- A JSON value shows a value: whatever cannot be told apart in JSON is alike, so lists of both
kinds are lists, and the entries of a mapping are members in ascending order of their names. -/
inductive Shows : Json → Value → Prop where
  | null : Shows null .null
  | bool (b : Bool) : Shows (bool b) (.bool b)
  | int (i : Int) : Shows (int i) (.int i)
  | text (s : String) : Shows (.ofString s) (.text s)
  | list {js : List Json} {vs : List Value} (items : List.Forall₂ Shows js vs) :
      Shows (list js) (.list vs)
  | tuple {js : List Json} {vs : List Value} (items : List.Forall₂ Shows js vs) :
      Shows (list js) (.tuple vs)
  | mapping {members : List (List Point × Json)} {named sorted : List (String × Value)}
      (order : named.Perm sorted) (ascending : (Keyed.keys sorted).Pairwise (· ≤ ·))
      (names : Keyed.keys members = (Keyed.keys sorted).map Point.ofString)
      (values : List.Forall₂ Shows (members.map Prod.snd) (sorted.map Prod.snd)) :
      Shows (object members) (.ofNamed named)

lemma Shows.exists_members {j : Json} {named : List (String × Value)}
    (shown : Shows j (.ofNamed named)) : ∃ members, j = object members := by
  generalize same : Value.ofNamed named = v at shown
  cases shown with
  | mapping => exact ⟨_, rfl⟩
  | _ => cases same

/-- An object that shows a mapping has a member for each of its keys, and no other. -/
lemma Shows.isSome_member?_iff {members : List (List Point × Json)} {named : List (String × Value)}
    (shown : Shows (object members) (.ofNamed named)) (name : String) :
    (member? name members).isSome ↔ name ∈ Keyed.keys named := by
  generalize same : Value.ofNamed named = v at shown
  cases shown with
  | @mapping members named' sorted order _ names _ =>
    obtain rfl := Value.ofNamed_injective same
    have sameKeys : (Keyed.keys named).Perm (Keyed.keys sorted) := order.map Prod.fst
    rw [← Option.ne_none_iff_isSome, ne_eq, member?, Keyed.lookup_eq_none_iff, not_not, names,
      List.mem_map_of_injective Point.ofString_injective, sameKeys.mem_iff]

end Json

/-! ## Writing -/

namespace Value

open Json (Readable Shows)

/-- Some JSON value that the reader can give back is written for a value and shows it. -/
def IsShown (v : Value) : Prop := ∃ j, v.toJson = .ok j ∧ Readable j ∧ Shows j v

lemma exists_toJsonItems {items : List Value} (each : ∀ v ∈ items, v.IsShown) :
    ∃ js, toJsonItems items = .ok js ∧ (∀ j ∈ js, Readable j) ∧ List.Forall₂ Shows js items := by
  induction items with
  | nil => exact ⟨[], rfl, nofun, .nil⟩
  | cons v items ih =>
    rw [List.forall_mem_cons] at each
    obtain ⟨⟨j, written, readable, shown⟩, others⟩ := each
    obtain ⟨js, writtenItems, readableItems, shownItems⟩ := ih others
    refine ⟨j :: js, ?_, List.forall_mem_cons.mpr ⟨readable, readableItems⟩, .cons shown shownItems⟩
    rw [toJsonItems, written, writtenItems]
    rfl

lemma exists_members {entries : List (String × Value)} (each : ∀ e ∈ entries, e.2.IsShown) :
    ∃ ms, members (entries.map fun e => (text e.1, e.2.toJson)) = .ok ms ∧
      (∀ m ∈ ms, Readable m.2) ∧ Keyed.keys ms = (Keyed.keys entries).map Point.ofString ∧
        List.Forall₂ Shows (ms.map Prod.snd) (entries.map Prod.snd) := by
  induction entries with
  | nil => exact ⟨[], rfl, nofun, rfl, .nil⟩
  | cons e entries ih =>
    rw [List.forall_mem_cons] at each
    obtain ⟨⟨j, written, readable, shown⟩, others⟩ := each
    obtain ⟨ms, writtenRest, readableRest, names, shownRest⟩ := ih others
    refine ⟨(Point.ofString e.1, j) :: ms, ?_, List.forall_mem_cons.mpr ⟨readable, readableRest⟩,
      congrArg (Point.ofString e.1 :: ·) names, .cons shown shownRest⟩
    rw [List.map_cons, members, keyText, written, writtenRest]
    rfl

/-! ### Members in order -/

/-- Named values in the order of their names. -/
def sortByName {α : Type} (named : List (String × α)) : List (String × α) :=
  named.mergeSort fun a b => a.1 ≤ b.1

lemma sortByName_perm {α : Type} (named : List (String × α)) : (sortByName named).Perm named :=
  List.mergeSort_perm _ _

lemma ascending_sortByName {α : Type} (named : List (String × α)) :
    (Keyed.keys (sortByName named)).Pairwise (· ≤ ·) := by
  have sorted : (sortByName named).Pairwise fun a b => decide (a.1 ≤ b.1) = true := by
    refine List.pairwise_mergeSort ?_ ?_ named
    · intro a b c hab hbc
      rw [decide_eq_true_eq] at hab hbc ⊢
      exact String.le_trans hab hbc
    · intro a b
      rw [Bool.or_eq_true, decide_eq_true_eq, decide_eq_true_eq]
      exact String.le_total a.1 b.1
  rw [Keyed.keys, List.pairwise_map]
  exact sorted.imp of_decide_eq_true

lemma textKeys?_map {α : Type} (named : List (String × α)) :
    textKeys? (named.map fun e => (text e.1, e.2)) = some named := by
  induction named with
  | nil => rfl
  | cons e named ih => rw [List.map_cons, textKeys?, ih, Option.map_some]

lemma toJsonEntries_eq_map (entries : List (Value × Value)) :
    toJsonEntries entries = entries.map fun e => (e.1, e.2.toJson) := by
  induction entries with
  | nil => rfl
  | cons e entries ih => rw [toJsonEntries, ih, List.map_cons]

/-- The entries of a mapping of texts are written in the order of their names. -/
lemma toJson_ofNamed (named : List (String × Value)) :
    (ofNamed named).toJson =
      (members ((sortByName named).map fun e => (text e.1, e.2.toJson))).map .object := by
  have sorted : sortByName (named.map fun e => (e.1, e.2.toJson)) =
      (sortByName named).map fun e => (e.1, e.2.toJson) := by
    rw [sortByName, sortByName, List.map_mergeSort]
    exact fun _ _ _ _ => rfl
  have entries : toJsonEntries (named.map fun e => (text e.1, e.2)) =
      (named.map fun e => (e.1, e.2.toJson)).map fun e => (text e.1, e.2) := by
    rw [toJsonEntries_eq_map, List.map_map, List.map_map]
    rfl
  rw [ofNamed, toJson, objectOf, entries, sortEntries, textKeys?_map]
  show (members ((sortByName (named.map fun e => (e.1, e.2.toJson))).map
    fun e => (text e.1, e.2))).map Json.object = _
  rw [sorted, List.map_map]
  rfl

/-! ### Main result -/

/-- A value made of what JSON has is written as a JSON value that shows it, and the reader can give
that back. -/
theorem exists_toJson {v : Value} (exportable : Exportable v) : v.IsShown := by
  induction exportable with
  | null => exact ⟨_, rfl, .null, .null⟩
  | bool b => exact ⟨_, rfl, .bool b, .bool b⟩
  | @int i few =>
    refine ⟨.int i, ?_, .int few, .int i⟩
    rw [toJson, (writtenInt_limited i).ok (Nat.not_lt.mpr few)]
    rfl
  | text s => exact ⟨_, rfl, .text (Json.settled_ofString s), .text s⟩
  | list _ ih =>
    obtain ⟨js, written, readable, shown⟩ := exists_toJsonItems ih
    refine ⟨.list js, ?_, .list readable, .list shown⟩
    rw [toJson, written]
    rfl
  | tuple _ ih =>
    obtain ⟨js, written, readable, shown⟩ := exists_toJsonItems ih
    refine ⟨.list js, ?_, .list readable, .tuple shown⟩
    rw [toJson, written]
    rfl
  | @mapping named once _ ih =>
    have order := sortByName_perm named
    obtain ⟨ms, written, readable, names, shown⟩ :=
      exists_members fun e he => ih e (order.mem_iff.mp he)
    have sameKeys : (Keyed.keys (sortByName named)).Perm (Keyed.keys named) := order.map Prod.fst
    have distinct : (Keyed.keys ms).Nodup := by
      rw [names]
      exact (sameKeys.nodup_iff.mpr once).map Point.ofString_injective
    refine ⟨.object ms, ?_, .object distinct ?_ readable,
      .mapping order.symm (ascending_sortByName named) names shown⟩
    · rw [toJson_ofNamed, written]
      rfl
    · intro m hm
      have name : m.1 ∈ Keyed.keys ms := List.mem_map_of_mem hm
      rw [names] at name
      obtain ⟨s, -, same⟩ := List.mem_map.mp name
      exact same ▸ Json.settled_ofString s

end Value

end TargetAssembly
