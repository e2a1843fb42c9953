import Mathlib.Data.List.Induction
import Mathlib.Data.List.Nodup
import TargetAssembly.ArtifactSet.Basic
import TargetAssembly.Keyed

/-!
# Lists of first occurrences and lists of keyed values

A list in which every key is bound once is a finite map, and a list that is built by binding keys
has the first occurrences of the keys.  So the laws of `List.eraseDups` come first here.
-/

namespace TargetAssembly

/-!
## First occurrences

`List.eraseDups` keeps of every list the first occurrence of each entry.  The laws here say how it
goes together with the ways in which lists are put together: a list can be freed of its repetitions
part by part, and the parts once more as a whole, without a change of the result.  They are proved
by induction on the last entry, since an entry is kept or dropped by what stands before it.
`FirstSeen` says without any function what the list of first occurrences is, and `firstSeen_iff`
that there is no other.
-/

variable {α : Type} [BEq α] [LawfulBEq α]

lemma eraseDups_concat (l : List α) (a : α) :
    (l ++ [a]).eraseDups = if a ∈ l then l.eraseDups else l.eraseDups ++ [a] := by
  rw [List.eraseDups_append]
  by_cases h : a ∈ l <;> simp [List.removeAll, List.eraseDups_cons, h]

lemma nodup_eraseDups (l : List α) : l.eraseDups.Nodup := by
  induction l using List.reverseRecOn with
  | nil => simp
  | append_singleton l a ih =>
    rw [eraseDups_concat]
    split_ifs with h
    · exact ih
    · refine List.Nodup.append ih (List.nodup_singleton a) ?_
      simpa [List.mem_eraseDups] using h

lemma eraseDups_eq_self {l : List α} (h : l.Nodup) : l.eraseDups = l := by
  induction l using List.reverseRecOn with
  | nil => rfl
  | append_singleton l a ih =>
    rw [List.nodup_append] at h
    have ha : a ∉ l := fun hl => h.2.2 a hl a (by simp) rfl
    rw [eraseDups_concat, if_neg ha, ih h.1]

omit [LawfulBEq α] in
lemma eraseDups_eq_nil_iff {l : List α} : l.eraseDups = [] ↔ l = [] := by
  cases l <;> simp [List.eraseDups_cons]

lemma length_eraseDups_le (l : List α) : l.eraseDups.length ≤ l.length := by
  induction l using List.reverseRecOn with
  | nil => exact Nat.le_refl _
  | append_singleton l a ih =>
    rw [eraseDups_concat]
    split_ifs <;> simp only [List.length_append, List.length_singleton] <;> omega

lemma length_eraseDups_eq_iff {l : List α} : l.eraseDups.length = l.length ↔ l.Nodup := by
  refine ⟨fun same => ?_, fun nodup => congrArg List.length (eraseDups_eq_self nodup)⟩
  induction l using List.reverseRecOn with
  | nil => exact List.nodup_nil
  | append_singleton l a ih =>
    have shorter := length_eraseDups_le l
    rw [eraseDups_concat] at same
    split_ifs at same with h
    · simp only [List.length_append, List.length_singleton] at same
      omega
    · simp only [List.length_append, List.length_singleton, Nat.add_right_cancel_iff] at same
      exact List.nodup_append_comm.mp (List.nodup_cons.mpr ⟨h, ih same⟩)

lemma length_eraseDups_le_one_iff {l : List α} :
    l.eraseDups.length ≤ 1 ↔ ∀ a ∈ l, ∀ b ∈ l, a = b := by
  simp only [← List.mem_eraseDups (l := l)]
  have nodup := nodup_eraseDups l
  match l.eraseDups, nodup with
  | [], _ => simp
  | [c], _ => simp
  | c :: d :: rest, nodup =>
    refine iff_of_false (by simp) fun same => ?_
    rw [same c (by simp) d (by simp)] at nodup
    simp at nodup

lemma eraseDups_filter (l : List α) (p : α → Bool) :
    (l.filter p).eraseDups = l.eraseDups.filter p := by
  induction l using List.reverseRecOn with
  | nil => rfl
  | append_singleton l a ih =>
    rw [List.filter_append, eraseDups_concat]
    -- an entry that does not pass is dropped on both sides, whether it is new or not
    by_cases hp : p a
    · have hf : [a].filter p = [a] := by simp [hp]
      rw [hf, eraseDups_concat, ih]
      by_cases hm : a ∈ l <;> simp [hm, hp]
    · have hf : [a].filter p = [] := by simp [hp]
      rw [hf, List.append_nil, ih]
      by_cases hm : a ∈ l <;> simp [hm, hp]

/-- Entries that are told apart after a change are told apart before it. -/
lemma eraseDups_map {β : Type} [BEq β] [LawfulBEq β] {f : α → β} (injective : Function.Injective f)
    (l : List α) : (l.map f).eraseDups = l.eraseDups.map f := by
  induction l using List.reverseRecOn with
  | nil => rfl
  | append_singleton l a ih =>
    rw [List.map_append, List.map_singleton, eraseDups_concat, eraseDups_concat, ih]
    simp only [List.mem_map_of_injective injective]
    split_ifs <;> simp

/-- What is taken away depends on the entries of a list and not on their order. -/
lemma removeAll_congr {l m : List α} (h : ∀ a, a ∈ l ↔ a ∈ m) (k : List α) :
    k.removeAll l = k.removeAll m := by
  simp only [List.removeAll]
  refine List.filter_congr fun a _ => ?_
  -- `removeAll` asks for entries with `elem`
  have hc : l.elem a = m.elem a := by
    rw [Bool.eq_iff_iff, List.elem_iff, List.elem_iff]
    exact h a
  rw [hc]

lemma removeAll_eraseDups (k l : List α) : k.removeAll l.eraseDups = k.removeAll l :=
  removeAll_congr (fun _ => List.mem_eraseDups) k

/-- Taking away commutes with keeping the first occurrences. -/
lemma eraseDups_removeAll (k l : List α) : (k.removeAll l).eraseDups = k.eraseDups.removeAll l :=
  eraseDups_filter k _

/-! ### Lists put together -/

lemma eraseDups_append_eraseDups (l m : List α) :
    (l.eraseDups ++ m.eraseDups).eraseDups = (l ++ m).eraseDups := by
  rw [List.eraseDups_append, List.eraseDups_append, removeAll_eraseDups, eraseDups_removeAll,
    eraseDups_removeAll, eraseDups_eq_self (nodup_eraseDups l),
    eraseDups_eq_self (nodup_eraseDups m)]

/-- What stands in the list already adds nothing. -/
lemma eraseDups_append_of_subset {l m : List α} (h : ∀ a ∈ m, a ∈ l) :
    (l ++ m).eraseDups = l.eraseDups := by
  have hm : m.removeAll l = [] := by
    simp only [List.removeAll, List.filter_eq_nil_iff]
    intro a ha
    simpa using h a ha
  rw [List.eraseDups_append, hm, List.eraseDups_nil, List.append_nil]

/-- Lists without common entries do not change each other's first occurrences. -/
lemma eraseDups_append_of_disjoint {l m : List α} (h : l.Disjoint m) :
    (l ++ m).eraseDups = l.eraseDups ++ m.eraseDups := by
  have hm : m.removeAll l = m := by
    simp only [List.removeAll, List.filter_eq_self]
    intro a ha
    simpa using fun hl => h hl ha
  rw [List.eraseDups_append, hm]

lemma eraseDups_append_congr {l l' m m' : List α} (hl : l.eraseDups = l'.eraseDups)
    (hm : m.eraseDups = m'.eraseDups) : (l ++ m).eraseDups = (l' ++ m').eraseDups := by
  rw [← eraseDups_append_eraseDups, hl, hm, eraseDups_append_eraseDups]

/-- A list of lists can be freed of repetitions list by list first. -/
lemma eraseDups_flatMap_eraseDups {β : Type} (f : β → List α) (l : List β) :
    (l.flatMap fun b => (f b).eraseDups).eraseDups = (l.flatMap f).eraseDups := by
  induction l with
  | nil => rfl
  | cons b l ih =>
    rw [List.flatMap_cons, List.flatMap_cons, ← eraseDups_append_eraseDups, ih,
      eraseDups_eq_self (nodup_eraseDups (f b)), eraseDups_append_eraseDups]

/-- New entries added at the end of first occurrences are first occurrences again. -/
lemma addNew_eraseDups (l m : List Artifact) :
    addNew l.eraseDups m.eraseDups = (l ++ m).eraseDups := by
  rw [addNew, removeAll_eraseDups, List.eraseDups_append, eraseDups_removeAll]

/-! ### The order of first occurrences -/

omit [BEq α] [LawfulBEq α]

/-- Some beginning of a list holds an entry and does not hold another one yet. -/
def SeenBefore (s : List α) (a b : α) : Prop := ∃ front, front <+: s ∧ a ∈ front ∧ b ∉ front

/-- A list holds the entries of another one, each once, in the order in which they are first seen
there. -/
structure FirstSeen (s l : List α) : Prop where
  nodup : l.Nodup
  mem : ∀ a, a ∈ l ↔ a ∈ s
  order : l.Pairwise (SeenBefore s)

variable {s : List α} {a b : α}

lemma SeenBefore.asymm (h : SeenBefore s a b) : ¬ SeenBefore s b a := by
  obtain ⟨front, begins, ha, hb⟩ := h
  rintro ⟨front', begins', hb', ha'⟩
  -- of two beginnings one begins the other
  rcases List.prefix_or_prefix_of_prefix begins begins' with shorter | shorter
  · exact ha' (shorter.subset ha)
  · exact hb (shorter.subset hb')

lemma SeenBefore.append (h : SeenBefore s a b) (t : List α) : SeenBefore (s ++ t) a b := by
  obtain ⟨front, begins, ha, hb⟩ := h
  exact ⟨front, begins.trans (List.prefix_append s t), ha, hb⟩

/-- There is only one such list. -/
lemma FirstSeen.unique {l m : List α} (hl : FirstSeen s l) (hm : FirstSeen s m) : l = m := by
  have perm : l.Perm m := by
    rw [List.perm_ext_iff_of_nodup hl.nodup hm.nodup]
    intro a
    rw [hl.mem, hm.mem]
  refine List.Perm.eq_of_pairwise (fun a b _ _ hab hba => ?_) hl.order hm.order perm
  exact absurd hba hab.asymm

variable [BEq α] [LawfulBEq α]

lemma pairwise_eraseDups (s : List α) : s.eraseDups.Pairwise (SeenBefore s) := by
  induction s using List.reverseRecOn with
  | nil => exact .nil
  | append_singleton s a ih =>
    have kept : s.eraseDups.Pairwise (SeenBefore (s ++ [a])) := ih.imp fun h => h.append [a]
    rw [eraseDups_concat]
    split_ifs with h
    · exact kept
    · -- a new entry is seen after all that stands before it
      refine List.pairwise_append.mpr ⟨kept, List.pairwise_singleton _ a, ?_⟩
      intro b hb c hc
      obtain rfl := List.mem_singleton.mp hc
      exact ⟨s, List.prefix_append s [c], List.mem_eraseDups.mp hb, h⟩

lemma firstSeen_eraseDups (s : List α) : FirstSeen s s.eraseDups :=
  ⟨nodup_eraseDups s, fun _ => List.mem_eraseDups, pairwise_eraseDups s⟩

lemma firstSeen_iff {l : List α} : FirstSeen s l ↔ l = s.eraseDups := by
  refine ⟨fun h => h.unique (firstSeen_eraseDups s), ?_⟩
  rintro rfl
  exact firstSeen_eraseDups s

end TargetAssembly

namespace TargetAssembly.Keyed

/-!
## Look-up

A list in which every key is bound once is a finite map: a look-up finds exactly the pairs of the
list, and two such lists are permutations of each other when their look-ups agree.  A list that is
built from pairs is one, whatever the pairs are: its keys are those of the pairs in the order of
their first occurrence, and each of its entries is one of the pairs.
-/

variable {κ : Type} {α β : Type}

/-! ### Lists with the same keys -/

lemma keys_map_value (f : α → β) (l : List (κ × α)) :
    keys (l.map fun e => (e.1, f e.2)) = keys l := by
  rw [keys, List.map_map]
  rfl

lemma eq_of_keys_of_values {l m : List (κ × α)} (same : keys l = keys m)
    (values : l.map Prod.snd = m.map Prod.snd) : l = m := by
  rw [← List.zip_unzip l, ← List.zip_unzip m, List.unzip_eq_map, List.unzip_eq_map]
  exact congrArg₂ List.zip same values

lemma eq_of_perm {l m : List (κ × α)} (perm : l.Perm m) (same : keys l = keys m)
    (nodup : (keys l).Nodup) : l = m := by
  have nodup' : (keys m).Nodup := same ▸ nodup
  refine List.ext_getElem perm.length_eq fun i hl hm => ?_
  -- the two entries at a place have one key, and `m` holds both
  have key : l[i].1 = m[i].1 := by
    have at_i := congrArg (·[i]?) same
    simpa [keys, hl, hm] using at_i
  exact List.inj_on_of_nodup_map nodup' (perm.mem_iff.mp (List.getElem_mem hl))
    (List.getElem_mem hm) key

/-! ### Keys under other names -/

section Rename

variable {ι : Type} [BEq κ] [BEq ι] {rename : κ → ι}

/-- A look-up goes through a change of the keys after which the same keys are equal. -/
lemma lookup_map_of_beq (same : ∀ a b, (rename a == rename b) = (a == b)) (f : α → β)
    (l : List (κ × α)) (k : κ) :
    (l.map fun e => (rename e.1, f e.2)).lookup (rename k) = (l.lookup k).map f := by
  induction l with
  | nil => rfl
  | cons e l ih =>
    rw [List.map_cons, List.lookup_cons, List.lookup_cons, same, ih]
    cases k == e.1 <;> rfl

/-- A binding goes through such a change. -/
lemma set_map_of_beq (same : ∀ a b, (rename a == rename b) = (a == b)) (f : α → β) (k : κ) (a : α)
    (l : List (κ × α)) :
    set (rename k) (f a) (l.map fun e => (rename e.1, f e.2)) =
      (set k a l).map fun e => (rename e.1, f e.2) := by
  induction l with
  | nil => rfl
  | cons e l ih =>
    obtain ⟨j, b⟩ := e
    rw [List.map_cons, set, set, same, ih]
    cases j == k <;> rfl

end Rename

/-! ### Look-up -/

variable [BEq κ] [LawfulBEq κ]

lemma lookup_eq_none_iff {l : List (κ × α)} {k : κ} : l.lookup k = none ↔ k ∉ keys l := by
  rw [List.lookup_eq_none_iff, keys, List.mem_map]
  constructor
  · rintro h ⟨e, he, rfl⟩
    simpa using h e he
  · intro h e he
    simp only [bne_iff_ne, ne_eq]
    rintro rfl
    exact h ⟨e, he, rfl⟩

lemma mem_of_lookup {l : List (κ × α)} {k : κ} {a : α} (h : l.lookup k = some a) : (k, a) ∈ l := by
  obtain ⟨before, after, rfl, -⟩ := List.lookup_eq_some_iff.mp h
  simp

/-- Where every key is bound once, a look-up finds what the list binds the key to. -/
lemma lookup_eq_some_iff {l : List (κ × α)} (nodup : (keys l).Nodup) {k : κ} {a : α} :
    l.lookup k = some a ↔ (k, a) ∈ l := by
  refine ⟨mem_of_lookup, fun h => ?_⟩
  cases hl : l.lookup k with
  | none => exact absurd (List.mem_map_of_mem (f := Prod.fst) h) (lookup_eq_none_iff.mp hl)
  | some b =>
    -- the pair that is found and the given one have the same key
    have heq : (k, b) = (k, a) := List.inj_on_of_nodup_map nodup (mem_of_lookup hl) h rfl
    exact congrArg (some ∘ Prod.snd) heq

/-- A look-up goes through an injective change of the keys. -/
lemma lookup_map {ι : Type} [BEq ι] [LawfulBEq ι] {rename : κ → ι}
    (injective : Function.Injective rename) (f : α → β) (l : List (κ × α)) (k : κ) :
    (l.map fun e => (rename e.1, f e.2)).lookup (rename k) = (l.lookup k).map f := by
  refine lookup_map_of_beq (fun a b => ?_) f l k
  rw [Bool.eq_iff_iff, beq_iff_eq, beq_iff_eq, injective.eq_iff]

lemma lookup_map_value (f : α → β) (l : List (κ × α)) (k : κ) :
    (l.map fun e => (e.1, f e.2)).lookup k = (l.lookup k).map f :=
  lookup_map Function.injective_id f l k

lemma perm_iff_lookup {l m : List (κ × α)} (hl : (keys l).Nodup) (hm : (keys m).Nodup) :
    l.Perm m ↔ ∀ k, l.lookup k = m.lookup k := by
  constructor
  · intro h k
    refine Option.ext fun a => ?_
    rw [lookup_eq_some_iff hl, lookup_eq_some_iff hm, h.mem_iff]
  · intro h
    rw [List.perm_ext_iff_of_nodup (List.Nodup.of_map _ hl) (List.Nodup.of_map _ hm)]
    rintro ⟨k, a⟩
    rw [← lookup_eq_some_iff hl, ← lookup_eq_some_iff hm, h k]

/-! ### Lists that are built by binding -/

lemma set_of_not_mem {k : κ} {l : List (κ × α)} (h : k ∉ keys l) (a : α) :
    set k a l = l ++ [(k, a)] := by
  induction l with
  | nil => rfl
  | cons e l ih =>
    obtain ⟨j, b⟩ := e
    rw [keys, List.map_cons, List.mem_cons, not_or] at h
    have hj : (j == k) = false := by simpa using Ne.symm h.1
    rw [set, hj, if_neg Bool.false_ne_true, ih h.2, List.cons_append]

omit [LawfulBEq κ] in
lemma set_map_value (f : α → β) (k : κ) (a : α) (l : List (κ × α)) :
    set k (f a) (l.map fun e => (e.1, f e.2)) = (set k a l).map fun e => (e.1, f e.2) :=
  set_map_of_beq (fun _ _ => rfl) f k a l

omit [LawfulBEq κ] in
lemma ofList_append_singleton (l : List (κ × α)) (e : κ × α) :
    ofList (l ++ [e]) = set e.1 e.2 (ofList l) := by
  rw [ofList, setAll, List.foldl_append]
  rfl

/-- A list that is built from pairs binds a key to its last value. -/
lemma lookup_ofList (l : List (κ × α)) (k : κ) : (ofList l).lookup k = l.reverse.lookup k := by
  induction l using List.reverseRecOn with
  | nil => rfl
  | append_singleton l e ih =>
    rw [ofList_append_singleton, List.reverse_append, List.reverse_singleton, List.singleton_append]
    by_cases h : k = e.1
    · rw [h, lookup_set_self, List.lookup_cons_self]
    · have other : (k == e.1) = false := by simpa using h
      rw [lookup_set_of_ne h, ih, List.lookup_cons, other]

lemma keys_ofList (l : List (κ × α)) : keys (ofList l) = (keys l).eraseDups := by
  induction l using List.reverseRecOn with
  | nil => rfl
  | append_singleton l e ih =>
    have last : keys (l ++ [e]) = keys l ++ [e.1] := by rw [keys, List.map_append]; rfl
    rw [ofList_append_singleton, keys_set, ih, last, eraseDups_concat]
    simp only [List.mem_eraseDups]

lemma nodup_keys_ofList (l : List (κ × α)) : (keys (ofList l)).Nodup := by
  rw [keys_ofList]
  exact nodup_eraseDups (keys l)

lemma mem_of_mem_ofList {l : List (κ × α)} {e : κ × α} (h : e ∈ ofList l) : e ∈ l := by
  have found : (ofList l).lookup e.1 = some e.2 := (lookup_eq_some_iff (nodup_keys_ofList l)).mpr h
  rw [lookup_ofList] at found
  exact List.mem_reverse.mp (mem_of_lookup found)

/-- In a list that is built from pairs stands the last value of a key. -/
lemma lookup_ofList_last {before after : List (κ × α)} {k : κ} (a : α) (last : k ∉ keys after) :
    (ofList (before ++ (k, a) :: after)).lookup k = some a := by
  have later : after.reverse.lookup k = none := by
    rw [lookup_eq_none_iff, keys, List.map_reverse, List.mem_reverse]
    exact last
  rw [lookup_ofList, List.reverse_append, List.reverse_cons, List.lookup_append, List.lookup_append,
    later, List.lookup_cons_self]
  rfl

omit [LawfulBEq κ] in
/-- Changing values and building a list from pairs can be done in either order. -/
lemma ofList_map_value (f : α → β) (l : List (κ × α)) :
    ofList (l.map fun e => (e.1, f e.2)) = (ofList l).map fun e => (e.1, f e.2) := by
  induction l using List.reverseRecOn with
  | nil => rfl
  | append_singleton l e ih =>
    rw [List.map_append, List.map_singleton, ofList_append_singleton, ih, ofList_append_singleton]
    exact set_map_value f e.1 e.2 (ofList l)

/-- Pairs that bind every key once are the list that they build. -/
lemma ofList_eq_self {l : List (κ × α)} (h : (keys l).Nodup) : ofList l = l := by
  induction l using List.reverseRecOn with
  | nil => rfl
  | append_singleton l e ih =>
    rw [keys, List.map_append, List.nodup_append] at h
    obtain ⟨nodup, -, apart⟩ := h
    -- the last key is new, so its pair is appended
    have fresh : e.1 ∉ keys l := fun hm => apart e.1 hm e.1 (by simp) rfl
    rw [ofList_append_singleton, ih nodup]
    exact set_of_not_mem fresh e.2

end TargetAssembly.Keyed
