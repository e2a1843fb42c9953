import Mathlib.Tactic.Lemma

/-!
# The first flaw

Parts of a whole are read one after the other, and reading ends at the first part that has a flaw.
Where no part is read in a way that depends on the others, the flaw of the whole is the first of
those of its parts.
-/

namespace TargetAssembly

variable {ε α β : Type}

lemma bind_eq_ok_iff {x : Except ε α} {f : α → Except ε β} {b : β} :
    x >>= f = .ok b ↔ ∃ a, x = .ok a ∧ f a = .ok b := by
  cases x <;> simp [bind, Except.bind]

lemma map_eq_ok {f : α → β} {r : Except ε α} {b : β} (h : r.map f = .ok b) :
    ∃ a, r = .ok a ∧ b = f a := by
  cases r with
  | error e => cases h
  | ok a => exact ⟨a, rfl, (Except.ok.inj h).symm⟩

lemma map_eq_error {f : α → β} {r : Except ε α} {e : ε} (h : r.map f = .error e) :
    r = .error e := by
  cases r with
  | error e' => exact congrArg Except.error (Except.error.inj h)
  | ok a => cases h

/-- What is wrong, if anything is. -/
def flaw? : Except ε α → Option ε
  | .ok _ => none
  | .error what => some what

@[simp] lemma flaw?_eq_some_iff {x : Except ε α} {what : ε} :
    flaw? x = some what ↔ x = .error what := by
  cases x <;> simp [flaw?]

@[simp] lemma flaw?_eq_none_iff {x : Except ε α} : flaw? x = none ↔ ∃ a, x = .ok a := by
  cases x <;> simp [flaw?]

lemma flaw?_bind {x : Except ε α} {f : α → Except ε β} {o : Option ε} (h : ∀ a, flaw? (f a) = o) :
    flaw? (x >>= f) = (flaw? x).or o := by
  cases x with
  | ok a => exact h a
  | error what => rfl

/-- What is read is known from what it may give and from what is wrong with it. -/
lemma eq_of_flaw? {x y : Except ε α} (given : ∀ a, x = .ok a → y = .ok a)
    (flaws : flaw? x = flaw? y) : x = y := by
  cases x with
  | ok a => exact (given a rfl).symm
  | error what => exact (flaw?_eq_some_iff.mp flaws.symm).symm

lemma flaw?_ite {p : Prop} [Decidable p] (what : ε) (a : α) :
    flaw? (if p then .error what else .ok a) = if p then some what else none := by
  by_cases h : p <;> simp [h, flaw?]

/-! ## Flaws of a list of parts -/

section Parts

variable {parts : List α} {flawOf : α → Option ε}

lemma findSome?_cons_or (part : α) (parts : List α) (flawOf : α → Option ε) :
    (part :: parts).findSome? flawOf = (flawOf part).or (parts.findSome? flawOf) := by
  rw [List.findSome?_cons]
  cases flawOf part <;> rfl

lemma findSome?_congr {flawOf' : α → Option ε} (h : ∀ part ∈ parts, flawOf part = flawOf' part) :
    parts.findSome? flawOf = parts.findSome? flawOf' := by
  induction parts with
  | nil => rfl
  | cons part parts ih =>
    obtain ⟨first, others⟩ := List.forall_mem_cons.mp h
    rw [findSome?_cons_or, findSome?_cons_or, first, ih others]

/-- The first flaw is that of a part that no part with a flaw precedes. -/
lemma findSome?_eq_some_iff_split {what : ε} :
    parts.findSome? flawOf = some what ↔
      ∃ before part after, parts = before ++ part :: after ∧ (∀ a ∈ before, flawOf a = none) ∧
        flawOf part = some what := by
  rw [List.findSome?_eq_some_iff]
  constructor
  · rintro ⟨before, part, after, split, found, sound⟩
    exact ⟨before, part, after, split, sound, found⟩
  · rintro ⟨before, part, after, split, sound, found⟩
    exact ⟨before, part, after, split, found, sound⟩

end Parts

end TargetAssembly
