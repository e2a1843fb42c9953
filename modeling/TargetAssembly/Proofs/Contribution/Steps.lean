import TargetAssembly.Contribution
import TargetAssembly.Proofs.ArtifactSet.Flattening
import TargetAssembly.Proofs.KeyedLookup

/-!
# Merging as one loop over parts

Contributions are merged one after the other, and within a contribution its files, its
capabilities, its program and its extra values.  This file takes the two loops apart into one loop
over parts.  What the parts come to is a function of them, `gathered`, as long as nothing is
supplied twice; the lemma on a step says that a part either extends it or meets an earlier
supplier of the same item, and the lemma on a run finds the first such meeting.
-/

namespace TargetAssembly.Contribution

/-- What is merged in one step. -/
inductive Part where
  /-- The files of a contribution. -/
  | files (s : ArtifactSet)
  /-- One of its capabilities. -/
  | capability (s : Supply)
  /-- Its program. -/
  | executable (a : Artifact)
  /-- Its extra values. -/
  | extras (vs : List Value)

/-- The parts of a contribution, in the order in which they are merged. -/
def parts (c : Contribution) : List Part :=
  .files c.files ::
    (c.capabilities.map .capability ++
      ((c.executable.map .executable).toList ++ [.extras c.extras]))

/-- The parts of contributions, each with its source. -/
def allParts (cs : List Contribution) : List (Part × String) :=
  cs.flatMap fun c => c.parts.map (·, c.source)

/-- Merge one part of a source. -/
def addPart (m : Merged) : Part × String → Except Conflict Merged
  | (.files s, _) => .ok { m with files := m.files.addTransitive s }
  | (.capability s, source) => addCapability source m s
  | (.executable a, source) => addExecutable source m (some a)
  | (.extras vs, _) => .ok { m with extras := m.extras ++ vs }

lemma add_eq_foldlM (m : Merged) (c : Contribution) :
    add m c = (c.parts.map (·, c.source)).foldlM addPart m := by
  simp only [parts, List.map_cons, List.map_append, List.map_map, List.foldlM_cons,
    List.foldlM_append, List.foldlM_map, Function.comp_def, addPart, add]
  -- a contribution without a program has no part for it, and adding none changes nothing
  cases c.executable with
  | none => rfl
  | some a =>
    simp only [Option.map_some, Option.toList_some, List.foldlM_cons, List.foldlM_nil, bind_pure]
    rfl

lemma foldlM_add (m : Merged) (cs : List Contribution) :
    cs.foldlM add m = (allParts cs).foldlM addPart m := by
  induction cs generalizing m with
  | nil => rfl
  | cons c cs ih =>
    rw [List.foldlM_cons, allParts, List.flatMap_cons, List.foldlM_append, add_eq_foldlM]
    exact congrArg _ (funext fun m => ih m)

/-! ## Suppliers -/

namespace Part

/-- The set of files that a part is. -/
def files? : Part → Option ArtifactSet
  | .files s => some s
  | _ => none

/-- The capability that a part is, under its kind. -/
def kinded? : Part → Option (CapabilityKind × Supply)
  | .capability s => s.kind?.map (·, s)
  | _ => none

/-- The program that a part is. -/
def executable? : Part → Option Artifact
  | .executable a => some a
  | _ => none

/-- The extra values of a part. -/
def extraValues : Part → List Value
  | .extras vs => vs
  | _ => []

/-- What a part supplies that may be supplied only once. -/
def item? : Part → Option Item
  | .capability s => s.kind?.map .capability
  | .executable _ => some .executable
  | _ => none

/-- A part that is a capability has a kind. -/
def Kinded (p : Part) : Prop := ∀ s, p = .capability s → ∃ k, s.kind? = some k

end Part

/-- The items that parts supply, each with its source. -/
def claimsOf (ps : List (Part × String)) : List (Item × String) :=
  ps.filterMap fun p => p.1.item?.map (·, p.2)

/-- What parts come to if nothing is supplied twice. -/
def gathered (ps : List (Part × String)) : Merged :=
  { files := (ps.filterMap fun p => p.1.files?).foldl ArtifactSetBuilder.addTransitive {}
    capabilities := ps.filterMap fun p => p.1.kinded?.map fun e => (e.1, e.2, p.2)
    extras := ps.flatMap fun p => p.1.extraValues
    executable := (ps.filterMap fun p => p.1.executable?.map (·, p.2)).head? }

lemma lookup_claimsOf_capability (ps : List (Part × String)) (k : CapabilityKind) :
    (claimsOf ps).lookup (.capability k) = ((gathered ps).capabilities.lookup k).map Prod.snd := by
  induction ps with
  | nil => rfl
  | cons p ps ih =>
    obtain ⟨p, source⟩ := p
    simp only [claimsOf, gathered] at ih ⊢
    cases p with
    | files s => simpa [Part.item?, Part.kinded?] using ih
    | executable a =>
      have hi : (Item.capability k == Item.executable) = false := by simp
      simpa [Part.item?, Part.kinded?, List.lookup_cons, hi] using ih
    | extras vs => simpa [Part.item?, Part.kinded?] using ih
    | capability s =>
      cases hs : s.kind? with
      | none => simpa [Part.item?, Part.kinded?, hs] using ih
      | some j =>
        by_cases hk : k = j
        · simp [Part.item?, Part.kinded?, hs, hk]
        · have hi : (Item.capability k == Item.capability j) = false := by simpa using hk
          have hj : (k == j) = false := by simpa using hk
          simpa [Part.item?, Part.kinded?, hs, List.lookup_cons, hi, hj] using ih

lemma lookup_claimsOf_executable (ps : List (Part × String)) :
    (claimsOf ps).lookup .executable = (gathered ps).executable.map Prod.snd := by
  induction ps with
  | nil => rfl
  | cons p ps ih =>
    obtain ⟨p, source⟩ := p
    simp only [claimsOf, gathered] at ih ⊢
    cases p with
    | files s => simpa [Part.item?, Part.executable?] using ih
    | executable a => simp [Part.item?, Part.executable?]
    | extras vs => simpa [Part.item?, Part.executable?] using ih
    | capability s =>
      cases hs : s.kind? with
      | none => simpa [Part.item?, Part.executable?, hs] using ih
      | some j =>
        have hj : (Item.executable == Item.capability j) = false := by simp
        simpa [Part.item?, Part.executable?, hs, List.lookup_cons, hj] using ih

/-! ## One step -/

lemma addPart_of_no_item {ps : List (Part × String)} {p : Part} {source : String}
    (kinded : p.Kinded) (h : p.item? = none) :
    addPart (gathered ps) (p, source) = .ok (gathered (ps ++ [(p, source)])) := by
  cases p with
  | files s => simp [addPart, gathered, Part.files?, Part.kinded?, Part.executable?,
      Part.extraValues, List.filterMap_append]
  | capability s =>
    obtain ⟨k, hk⟩ := kinded s rfl
    simp [Part.item?, hk] at h
  | executable a => simp [Part.item?] at h
  | extras vs => simp [addPart, gathered, Part.files?, Part.kinded?, Part.executable?,
      Part.extraValues, List.filterMap_append]

lemma addPart_of_new {ps : List (Part × String)} {p : Part} {source : String} {item : Item}
    (h : p.item? = some item) (new : (claimsOf ps).lookup item = none) :
    addPart (gathered ps) (p, source) = .ok (gathered (ps ++ [(p, source)])) := by
  cases p with
  | files s => simp [Part.item?] at h
  | extras vs => simp [Part.item?] at h
  | capability s =>
    obtain ⟨k, hk, rfl⟩ := Option.map_eq_some_iff.mp h
    rw [lookup_claimsOf_capability, Option.map_eq_none_iff] at new
    simp only [addPart, addCapability, hk, new]
    simp [gathered, Part.files?, Part.kinded?, Part.executable?, Part.extraValues,
      List.filterMap_append, hk]
  | executable a =>
    obtain rfl : Item.executable = item := Option.some.inj h
    rw [lookup_claimsOf_executable, Option.map_eq_none_iff] at new
    rw [addPart, addExecutable, new]
    -- no part before is a program, so this one comes first
    have none_before : (ps.filterMap fun p => p.1.executable?.map (·, p.2)) = [] :=
      List.head?_eq_none_iff.mp new
    simp only [gathered, List.filterMap_append, none_before]
    simp [Part.files?, Part.kinded?, Part.executable?, Part.extraValues]

lemma addPart_of_supplied {ps : List (Part × String)} {p : Part} {source first : String}
    {item : Item} (h : p.item? = some item) (old : (claimsOf ps).lookup item = some first) :
    addPart (gathered ps) (p, source) = .error (.suppliedTwice item first source) := by
  cases p with
  | files s => simp [Part.item?] at h
  | extras vs => simp [Part.item?] at h
  | capability s =>
    obtain ⟨k, hk, rfl⟩ := Option.map_eq_some_iff.mp h
    rw [lookup_claimsOf_capability, Option.map_eq_some_iff] at old
    obtain ⟨⟨t, _⟩, ht, rfl⟩ := old
    simp only [addPart, addCapability, hk, ht]
  | executable a =>
    obtain rfl : Item.executable = item := Option.some.inj h
    rw [lookup_claimsOf_executable, Option.map_eq_some_iff] at old
    obtain ⟨⟨b, _⟩, hb, rfl⟩ := old
    rw [addPart, addExecutable, hb]

end TargetAssembly.Contribution
