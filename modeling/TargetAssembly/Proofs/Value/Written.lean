import TargetAssembly.Proofs.FirstFlaw
import TargetAssembly.Value.Written

/-!
# Which values have a text

A value has a text unless a whole number with too many digits is shown in it, and that is the only
way in which writing it can go wrong.  `Overlong` says where such a number is shown in what messages
quote, `PlainOverlong` where it is shown in plain text.  Both follow the parts of a value that are
written; for all that are not, any number will do.
-/

namespace TargetAssembly

/-! ## Computations that stop at a long number -/

/-- A computation comes to a result unless some number in it is too long to be written. -/
structure Limited {α : Type} (x : Except Misfit α) (tooLong : Prop) (a : α) : Prop where
  error : tooLong → x = .error .tooManyDigits
  ok : ¬ tooLong → x = .ok a

namespace Limited

variable {α β : Type} {x : Except Misfit α} {y : Except Misfit β} {p q : Prop} {a : α} {b : β}

lemma of_ok (a : α) : Limited (.ok a) False a := ⟨False.elim, fun _ => rfl⟩

lemma congr (h : Limited x p a) (same : p ↔ q) : Limited x q a :=
  ⟨fun hq => h.error (same.mpr hq), fun hq => h.ok fun hp => hq (same.mp hp)⟩

lemma bind {f : α → Except Misfit β} (h : Limited x p a) (next : Limited (f a) q b) :
    Limited (x >>= f) (p ∨ q) b := by
  constructor
  · intro long
    by_cases first : p
    · rw [h.error first]
      rfl
    · rw [h.ok first]
      exact next.error (long.resolve_left first)
  · intro short
    rw [not_or] at short
    rw [h.ok short.1]
    exact next.ok short.2

lemma map {f : α → β} (h : Limited x p a) : Limited (f <$> x) p (f a) := by
  constructor
  · intro long
    rw [h.error long]
    rfl
  · intro short
    rw [h.ok short]
    rfl

/-- Taking the items of a list one after the other stops at the first that is too long. -/
lemma mapM {f : α → Except Misfit β} {tooLong : α → Prop} {g : α → β} {l : List α}
    (each : ∀ a ∈ l, Limited (f a) (tooLong a) (g a)) :
    Limited (l.mapM f) (∃ a ∈ l, tooLong a) (l.map g) := by
  induction l with
  | nil => exact (of_ok []).congr (by simp)
  | cons a l ih =>
    obtain ⟨first, others⟩ := List.forall_mem_cons.mp each
    rw [List.mapM_cons]
    exact (first.bind (ih others).map).congr (by simp)

lemma eq_ok_iff (h : Limited x p a) {a' : α} : x = .ok a' ↔ ¬ p ∧ a' = a := by
  by_cases long : p
  · rw [h.error long]
    exact iff_of_false nofun fun short => short.1 long
  · rw [h.ok long, Except.ok.injEq]
    exact ⟨fun same => ⟨long, same.symm⟩, fun same => same.2.symm⟩

lemma eq_error_iff (h : Limited x p a) {m : Misfit} : x = .error m ↔ m = .tooManyDigits ∧ p := by
  by_cases long : p
  · rw [h.error long, Except.error.injEq]
    exact ⟨fun same => ⟨same.symm, long⟩, fun same => same.1.symm⟩
  · rw [h.ok long]
    exact iff_of_false nofun fun error => long error.2

end Limited

namespace Value

/-! ## Induction -/

/-- Induction on values: through the items of lists, the entries of mappings, the fields of records
and the parts of problems. -/
lemma induction_parts {motive : Value → Prop} (null : motive null) (bool : ∀ b, motive (bool b))
    (int : ∀ i, motive (int i)) (float : ∀ x, motive (float x)) (text : ∀ s, motive (text s))
    (bytes : ∀ bs, motive (bytes bs)) (artifact : ∀ a, motive (artifact a))
    (artifacts : ∀ s, motive (artifacts s)) (enumerated : ∀ e, motive (enumerated e))
    (list : ∀ items, (∀ v ∈ items, motive v) → motive (list items))
    (tuple : ∀ items, (∀ v ∈ items, motive v) → motive (tuple items))
    (mapping : ∀ readOnly entries, (∀ e ∈ entries, motive e.1 ∧ motive e.2) →
      motive (mapping readOnly entries))
    (record : ∀ type fields, (∀ f ∈ fields, motive f.2) → motive (record type fields))
    (problem : ∀ occurrence kind message hint context, motive message → motive hint →
      (∀ e ∈ context, motive e.1 ∧ motive e.2) →
        motive (problem occurrence kind message hint context))
    (v : Value) : motive v := by
  -- the recursor has motives of its own for lists of each sort of parts and for single parts
  refine @Value.rec motive (fun items => ∀ v ∈ items, motive v)
    (fun entries => ∀ e ∈ entries, motive e.1 ∧ motive e.2)
    (fun fields => ∀ f ∈ fields, motive f.2) (fun e => motive e.1 ∧ motive e.2)
    (fun f => motive f.2) null bool int float text bytes artifact artifacts enumerated list tuple
    mapping record problem ?_ ?_ ?_ ?_ ?_ ?_ ?_ ?_ v
  · exact fun _ h => absurd h List.not_mem_nil
  · exact fun v items hv hitems => List.forall_mem_cons.mpr ⟨hv, hitems⟩
  · exact fun _ h => absurd h List.not_mem_nil
  · exact fun e entries he hentries => List.forall_mem_cons.mpr ⟨he, hentries⟩
  · exact fun _ h => absurd h List.not_mem_nil
  · exact fun f fields hf hfields => List.forall_mem_cons.mpr ⟨hf, hfields⟩
  · exact fun _ _ hk hv => ⟨hk, hv⟩
  · exact fun _ _ h => h

/-! ## What messages quote -/

/-- A whole number that is shown where a value is quoted has too many digits. -/
inductive Overlong : Value → Prop where
  | int {i : Int} (long : Decimal.maxDigits < (Nat.toDigits 10 i.natAbs).length) : Overlong (int i)
  | list {items : List Value} {v : Value} (mem : v ∈ items) (long : Overlong v) :
      Overlong (list items)
  | tuple {items : List Value} {v : Value} (mem : v ∈ items) (long : Overlong v) :
      Overlong (tuple items)
  | key {readOnly : Bool} {entries : List (Value × Value)} {e : Value × Value} (mem : e ∈ entries)
      (long : Overlong e.1) : Overlong (mapping readOnly entries)
  | bound {readOnly : Bool} {entries : List (Value × Value)} {e : Value × Value}
      (mem : e ∈ entries) (long : Overlong e.2) : Overlong (mapping readOnly entries)
  | field {type : String} {fields : List (String × Value)} {f : String × Value} (mem : f ∈ fields)
      (long : Overlong f.2) : Overlong (record type fields)
  | message {occurrence : Nat} {kind : ProblemKind} {message hint : Value}
      {context : List (Value × Value)} (long : Overlong message) :
      Overlong (problem occurrence kind message hint context)

lemma overlong_int_iff {i : Int} :
    Overlong (int i) ↔ Decimal.maxDigits < (Nat.toDigits 10 i.natAbs).length := by
  constructor
  · rintro ⟨long⟩
    exact long
  · exact .int

/-- A one with too many zeros behind it. -/
lemma overlong_tenPow {zeros : Nat} (many : Decimal.maxDigits ≤ zeros) :
    Overlong (int (Int.ofNat (Nat.pow 10 zeros))) := by
  rw [overlong_int_iff, ← Nat.not_le, Nat.length_toDigits_le_iff (by decide) (by decide)]
  exact Nat.not_lt.mpr (Nat.pow_le_pow_right (by decide) many)

/-- The least natural number that is too long. -/
def leastOverlong : Int := Int.ofNat (Nat.pow 10 Decimal.maxDigits)

lemma overlong_leastOverlong : Overlong (int leastOverlong) :=
  overlong_tenPow (Nat.le_refl Decimal.maxDigits)

lemma overlong_list_iff {items : List Value} :
    Overlong (list items) ↔ ∃ v ∈ items, v.Overlong := by
  constructor
  · rintro ⟨⟩
    exact ⟨_, ‹_›, ‹_›⟩
  · rintro ⟨v, mem, long⟩
    exact .list mem long

lemma overlong_tuple_iff {items : List Value} :
    Overlong (tuple items) ↔ ∃ v ∈ items, v.Overlong := by
  constructor
  · rintro ⟨⟩
    exact ⟨_, ‹_›, ‹_›⟩
  · rintro ⟨v, mem, long⟩
    exact .tuple mem long

lemma overlong_mapping_iff {readOnly : Bool} {entries : List (Value × Value)} :
    Overlong (mapping readOnly entries) ↔ ∃ e ∈ entries, e.1.Overlong ∨ e.2.Overlong := by
  constructor
  · intro h
    cases h with
    | key mem long => exact ⟨_, mem, .inl long⟩
    | bound mem long => exact ⟨_, mem, .inr long⟩
  · rintro ⟨e, mem, long | long⟩
    · exact .key mem long
    · exact .bound mem long

lemma overlong_record_iff {type : String} {fields : List (String × Value)} :
    Overlong (record type fields) ↔ ∃ f ∈ fields, f.2.Overlong := by
  constructor
  · rintro ⟨⟩
    exact ⟨_, ‹_›, ‹_›⟩
  · rintro ⟨f, mem, long⟩
    exact .field mem long

lemma overlong_problem_iff {occurrence : Nat} {kind : ProblemKind} {message hint : Value}
    {context : List (Value × Value)} :
    Overlong (problem occurrence kind message hint context) ↔ message.Overlong := by
  constructor
  · rintro ⟨⟩
    assumption
  · exact .message

lemma writtenInt_limited (i : Int) :
    Limited (writtenInt i) (Decimal.maxDigits < (Nat.toDigits 10 i.natAbs).length) (toString i) :=
  ⟨fun long => if_pos long, fun short => if_neg short⟩

/-- Writing a value goes wrong exactly if it is overlong. -/
def IsLimited (v : Value) : Prop := ∃ s, Limited v.written v.Overlong s

lemma writtenItems_limited {items : List Value} (each : ∀ v ∈ items, v.IsLimited) :
    ∃ l, Limited (writtenItems items) (∃ v ∈ items, v.Overlong) l := by
  induction items with
  | nil => exact ⟨[], (Limited.of_ok []).congr (by simp)⟩
  | cons v items ih =>
    obtain ⟨⟨s, first⟩, others⟩ := List.forall_mem_cons.mp each
    obtain ⟨l, rest⟩ := ih others
    exact ⟨s :: l, (first.bind rest.map).congr (by simp)⟩

lemma writtenEntries_limited {entries : List (Value × Value)}
    (each : ∀ e ∈ entries, e.1.IsLimited ∧ e.2.IsLimited) :
    ∃ l, Limited (writtenEntries entries) (∃ e ∈ entries, e.1.Overlong ∨ e.2.Overlong) l := by
  induction entries with
  | nil => exact ⟨[], (Limited.of_ok []).congr (by simp)⟩
  | cons e entries ih =>
    obtain ⟨⟨⟨s, key⟩, ⟨t, bound⟩⟩, others⟩ := List.forall_mem_cons.mp each
    obtain ⟨l, rest⟩ := ih others
    exact ⟨_, (key.bind (bound.bind rest.map)).congr (by simp [or_assoc])⟩

lemma writtenFields_limited {fields : List (String × Value)} (each : ∀ f ∈ fields, f.2.IsLimited) :
    ∃ l, Limited (writtenFields fields) (∃ f ∈ fields, f.2.Overlong) l := by
  induction fields with
  | nil => exact ⟨[], (Limited.of_ok []).congr (by simp)⟩
  | cons f fields ih =>
    obtain ⟨⟨s, first⟩, others⟩ := List.forall_mem_cons.mp each
    obtain ⟨l, rest⟩ := ih others
    exact ⟨_, (first.bind rest.map).congr (by simp)⟩

lemma isLimited (v : Value) : v.IsLimited := by
  induction v using induction_parts with
  | int i => exact ⟨_, (writtenInt_limited i).congr overlong_int_iff.symm⟩
  | list items ih =>
    obtain ⟨l, written⟩ := writtenItems_limited ih
    exact ⟨_, written.map.congr overlong_list_iff.symm⟩
  | tuple items ih =>
    obtain ⟨l, written⟩ := writtenItems_limited ih
    exact ⟨_, written.map.congr overlong_tuple_iff.symm⟩
  | mapping readOnly entries ih =>
    obtain ⟨l, written⟩ := writtenEntries_limited ih
    exact ⟨_, written.map.congr overlong_mapping_iff.symm⟩
  | record type fields ih =>
    obtain ⟨l, written⟩ := writtenFields_limited ih
    exact ⟨_, written.map.congr overlong_record_iff.symm⟩
  | problem occurrence kind message hint context ih =>
    obtain ⟨s, written⟩ := ih
    exact ⟨_, written.map.congr overlong_problem_iff.symm⟩
  | _ => exact ⟨_, (Limited.of_ok _).congr (iff_of_false id nofun)⟩

/-- A value has no text exactly if a whole number that is shown in it has too many digits. -/
theorem written_eq_error_iff {v : Value} {m : Misfit} :
    v.written = .error m ↔ m = .tooManyDigits ∧ v.Overlong := by
  obtain ⟨s, written⟩ := v.isLimited
  exact written.eq_error_iff

/-! ## Plain text -/

/-- A whole number that is shown in plain text has too many digits. -/
inductive PlainOverlong : Value → Prop where
  | quoted {v : Value} (ordinary : ∀ occurrence kind message hint context,
      v ≠ problem occurrence kind message hint context) (long : Overlong v) : PlainOverlong v
  | message {occurrence : Nat} {kind : ProblemKind} {message hint : Value}
      {context : List (Value × Value)} (long : PlainOverlong message) :
      PlainOverlong (problem occurrence kind message hint context)
  | hint {occurrence : Nat} {kind : ProblemKind} {message hint : Value}
      {context : List (Value × Value)} (shown : hint.isTrue = true) (long : PlainOverlong hint) :
      PlainOverlong (problem occurrence kind message hint context)
  | key {occurrence : Nat} {kind : ProblemKind} {message hint : Value}
      {context : List (Value × Value)} {e : Value × Value} (mem : e ∈ context)
      (shown : e.2.isTrue = true) (long : PlainOverlong e.1) :
      PlainOverlong (problem occurrence kind message hint context)
  | bound {occurrence : Nat} {kind : ProblemKind} {message hint : Value}
      {context : List (Value × Value)} {e : Value × Value} (mem : e ∈ context)
      (shown : e.2.isTrue = true) (long : PlainOverlong e.2) :
      PlainOverlong (problem occurrence kind message hint context)

lemma plainOverlong_iff {v : Value}
    (ordinary : ∀ occurrence kind message hint context,
      v ≠ problem occurrence kind message hint context) : v.PlainOverlong ↔ v.Overlong := by
  constructor
  · intro h
    cases h with
    | quoted _ long => exact long
    | _ => exact absurd rfl (ordinary _ _ _ _ _)
  · exact .quoted ordinary

lemma plainOverlong_problem_iff {occurrence : Nat} {kind : ProblemKind} {message hint : Value}
    {context : List (Value × Value)} :
    PlainOverlong (problem occurrence kind message hint context) ↔
      message.PlainOverlong ∨ (hint.isTrue = true ∧ hint.PlainOverlong) ∨
        ∃ e ∈ context, e.2.isTrue = true ∧ (e.1.PlainOverlong ∨ e.2.PlainOverlong) := by
  constructor
  · intro h
    cases h with
    | quoted ordinary _ => exact absurd rfl (ordinary _ _ _ _ _)
    | message long => exact .inl long
    | hint shown long => exact .inr (.inl ⟨shown, long⟩)
    | key mem shown long => exact .inr (.inr ⟨_, mem, shown, .inl long⟩)
    | bound mem shown long => exact .inr (.inr ⟨_, mem, shown, .inr long⟩)
  · rintro (long | ⟨shown, long⟩ | ⟨e, mem, shown, long | long⟩)
    · exact .message long
    · exact .hint shown long
    · exact .key mem shown long
    · exact .bound mem shown long

/-- Making plain text of a value goes wrong exactly if a number in it is overlong. -/
def IsPlainLimited (v : Value) : Prop := ∃ s, Limited v.plain v.PlainOverlong s

lemma plainContext_limited {context : List (Value × Value)}
    (each : ∀ e ∈ context, e.1.IsPlainLimited ∧ e.2.IsPlainLimited) :
    ∃ l, Limited (plainContext context)
      (∃ e ∈ context, e.2.isTrue = true ∧ (e.1.PlainOverlong ∨ e.2.PlainOverlong)) l := by
  induction context with
  | nil => exact ⟨[], (Limited.of_ok []).congr (by simp)⟩
  | cons e context ih =>
    obtain ⟨⟨⟨s, key⟩, ⟨t, bound⟩⟩, others⟩ := List.forall_mem_cons.mp each
    obtain ⟨l, rest⟩ := ih others
    rw [plainContext]
    by_cases shown : e.2.isTrue = true
    · rw [if_pos shown]
      exact ⟨_, (key.bind (bound.bind rest.map)).congr (by simp [shown, or_assoc])⟩
    · rw [if_neg shown]
      exact ⟨l, rest.congr (by simp [shown])⟩

lemma plain_problem_limited {occurrence : Nat} {kind : ProblemKind} {message hint : Value}
    {context : List (Value × Value)} (first : message.IsPlainLimited) (second : hint.IsPlainLimited)
    (each : ∀ e ∈ context, e.1.IsPlainLimited ∧ e.2.IsPlainLimited) :
    (problem occurrence kind message hint context).IsPlainLimited := by
  obtain ⟨s, first⟩ := first
  obtain ⟨t, second⟩ := second
  obtain ⟨l, rest⟩ := plainContext_limited each
  rw [IsPlainLimited, plain]
  by_cases shown : hint.isTrue = true
  · simp only [if_pos shown]
    refine ⟨_, (first.bind (second.bind rest.map)).congr ?_⟩
    simp [plainOverlong_problem_iff, shown]
  · simp only [if_neg shown]
    refine ⟨_, (first.bind rest.map).congr ?_⟩
    simp [plainOverlong_problem_iff, shown]

lemma isPlainLimited (v : Value) : v.IsPlainLimited := by
  have quoted (v : Value) (plain : v.plain = v.written)
      (ordinary : ∀ occurrence kind message hint context,
        v ≠ problem occurrence kind message hint context) : v.IsPlainLimited := by
    obtain ⟨s, written⟩ := v.isLimited
    rw [IsPlainLimited, plain]
    exact ⟨s, written.congr (plainOverlong_iff ordinary).symm⟩
  have itself (v : Value) (s : String) (plain : v.plain = .ok s)
      (ordinary : ∀ occurrence kind message hint context,
        v ≠ problem occurrence kind message hint context) (short : ¬ v.Overlong) :
      v.IsPlainLimited := by
    rw [IsPlainLimited, plain]
    exact ⟨s, (Limited.of_ok s).congr
      (iff_of_false id fun long => short ((plainOverlong_iff ordinary).mp long))⟩
  induction v using induction_parts with
  | text s => exact itself _ s rfl nofun nofun
  | enumerated e => exact itself _ e.value rfl nofun nofun
  | problem occurrence kind message hint context first second each =>
    exact plain_problem_limited first second each
  | _ => exact quoted _ rfl nofun

/-- A value has no plain text exactly if a whole number that is shown there has too many digits. -/
theorem plain_eq_error_iff {v : Value} {m : Misfit} :
    v.plain = .error m ↔ m = .tooManyDigits ∧ v.PlainOverlong := by
  obtain ⟨s, plain⟩ := v.isPlainLimited
  exact plain.eq_error_iff

end Value

end TargetAssembly
