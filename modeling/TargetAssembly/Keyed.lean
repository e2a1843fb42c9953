/-!
# Lists of keyed values

A list of pairs in which every key is bound once, in the order in which the keys were first
bound.  Binding a key again changes its value and leaves its place, so the last value stands at
the first place.  `lookup_set_self` and `lookup_set_of_ne` say what a look-up finds after a
binding, `keys_set` what the keys are then.
-/

namespace TargetAssembly.Keyed

variable {κ : Type u} {α : Type v}

/-- Bind a key to a value: in place if the key is bound already, else at the end. -/
def set [BEq κ] (k : κ) (a : α) : List (κ × α) → List (κ × α)
  | [] => [(k, a)]
  | (k', a') :: rest => if k' == k then (k', a) :: rest else (k', a') :: set k a rest

/-- Bind keys one after the other. -/
def setAll [BEq κ] (bound : List (κ × α)) (pairs : List (κ × α)) : List (κ × α) :=
  pairs.foldl (fun l p => set p.1 p.2 l) bound

/-- The list that binds each key of some pairs to its last value, at its first place. -/
def ofList [BEq κ] (pairs : List (κ × α)) : List (κ × α) := setAll [] pairs

/-- The keys, in their order. -/
def keys (l : List (κ × α)) : List κ := l.map Prod.fst

/-! ## Look-up and keys after a binding -/

section Laws

variable [BEq κ] [LawfulBEq κ]

theorem lookup_set_self (k : κ) (a : α) (l : List (κ × α)) : (set k a l).lookup k = some a := by
  induction l with
  | nil => simp [set]
  | cons p l ih =>
    obtain ⟨k', a'⟩ := p
    by_cases h : k' = k
    · simp [set, h]
    · have h' : (k == k') = false := by simpa using Ne.symm h
      simp [set, h, List.lookup_cons, h', ih]

theorem lookup_set_of_ne {k j : κ} (h : j ≠ k) (a : α) (l : List (κ × α)) :
    (set k a l).lookup j = l.lookup j := by
  have hj : (j == k) = false := by simpa using h
  induction l with
  | nil => simp [set, List.lookup_cons, hj]
  | cons p l ih =>
    obtain ⟨k', a'⟩ := p
    by_cases hk : k' = k
    · simp [set, hk, List.lookup_cons, hj]
    · by_cases hj' : j = k'
      · simp [set, hk, hj']
      · have : (j == k') = false := by simpa using hj'
        simp [set, hk, List.lookup_cons, this, ih]

theorem keys_set (k : κ) (a : α) (l : List (κ × α)) :
    keys (set k a l) = if k ∈ keys l then keys l else keys l ++ [k] := by
  induction l with
  | nil => simp [set, keys]
  | cons p l ih =>
    obtain ⟨k', a'⟩ := p
    simp only [keys] at ih
    by_cases h : k' = k
    · simp [set, keys, h]
    · have h' : ¬ k = k' := fun e => h e.symm
      by_cases hm : k ∈ l.map Prod.fst <;> simp [set, h, h', keys, ih, hm]

end Laws

end TargetAssembly.Keyed
