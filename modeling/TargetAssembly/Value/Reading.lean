import TargetAssembly.Value.Basic

/-!
# Reading values as typed data

A value is read as data of a type only if it is the view of such data: texts are written out,
lists cannot change, and a record has exactly the fields of its type.  So nothing of a value is
lost when it is read, and reading undoes the views `ofTexts`, `ofArtifacts`, `ofTextPairs` and their
like.  A value that is no such view is not read, but it can still be used part by part.
-/

namespace TargetAssembly.Value

/-! ## Scalars -/

/-- A value as a text. -/
def text? : Value → Option String
  | text s => some s
  | _ => none

/-- A value as a truth value. -/
def bool? : Value → Option Bool
  | bool b => some b
  | _ => none

/-- A value as an artifact. -/
def artifact? : Value → Option Artifact
  | artifact a => some a
  | _ => none

/-- A value as a set of artifacts. -/
def artifacts? : Value → Option ArtifactSet
  | artifacts s => some s
  | _ => none

@[simp] theorem text?_text (s : String) : text? (text s) = some s := rfl

@[simp] theorem bool?_bool (b : Bool) : bool? (bool b) = some b := rfl

@[simp] theorem artifact?_artifact (a : Artifact) : artifact? (artifact a) = some a := rfl

@[simp] theorem artifacts?_artifacts (s : ArtifactSet) : artifacts? (artifacts s) = some s := rfl

/-! ## Options, lists and pairs -/

/-- A value as something or nothing. -/
def option? {α : Type} (f : Value → Option α) : Value → Option (Option α)
  | null => some none
  | v => (f v).map some

/-- A value as a list that cannot change. -/
def list? {α : Type} (f : Value → Option α) : Value → Option (List α)
  | tuple items => items.mapM f
  | _ => none

/-- A value as a list of texts. -/
def texts? : Value → Option (List String) := list? text?

/-- A value as a list of artifacts. -/
def artifactList? : Value → Option (List Artifact) := list? artifact?

/-- A value as a pair of texts. -/
def textPair? : Value → Option (String × String)
  | tuple [text a, text b] => some (a, b)
  | _ => none

/-- A value as a list of pairs of texts. -/
def textPairs? : Value → Option (List (String × String)) := list? textPair?

/-- The keys and values of a mapping for reading only, each of them a text. -/
def textMapping? : Value → Option (List (String × String))
  | mapping true entries => entries.mapM fun e => do return (← e.1.text?, ← e.2.text?)
  | _ => none

/-- A list in which each item is read as what it is the view of. -/
theorem mapM_map_some {α β : Type} {f : β → Option α} {g : α → β} (h : ∀ a, f (g a) = some a)
    (l : List α) : (l.map g).mapM f = some l := by
  induction l with
  | nil => rfl
  | cons a l ih => simp [List.mapM_cons, h, ih]

theorem list?_tuple_map {α : Type} {f : Value → Option α} {g : α → Value}
    (h : ∀ a, f (g a) = some a) (l : List α) : list? f (tuple (l.map g)) = some l :=
  mapM_map_some h l

/-- Something or nothing is read as what it is the view of, if nothing is the view of nothing
alone. -/
theorem option?_getD {α : Type} {f : Value → Option α} {g : α → Value}
    (h : ∀ a, f (g a) = some a) (hn : f null = none) (o : Option α) :
    option? f ((o.map g).getD null) = some o := by
  cases o with
  | none => rfl
  | some a =>
    have ha := h a
    simp only [Option.map_some, Option.getD_some]
    unfold option?
    split
    · next e => rw [e, hn] at ha; cases ha
    · rw [ha]; rfl

@[simp] theorem texts?_ofTexts (l : List String) : texts? (ofTexts l) = some l :=
  list?_tuple_map text?_text l

@[simp] theorem artifactList?_ofArtifacts (l : List Artifact) :
    artifactList? (ofArtifacts l) = some l :=
  list?_tuple_map artifact?_artifact l

@[simp] theorem textPairs?_ofTextPairs (l : List (String × String)) :
    textPairs? (ofTextPairs l) = some l :=
  mapM_map_some (f := textPair?) (fun _ => rfl) l

@[simp] theorem textMapping?_ofTextMapping (l : List (String × String)) :
    textMapping? (ofTextMapping l) = some l :=
  mapM_map_some (f := fun e : Value × Value => do return (← e.1.text?, ← e.2.text?))
    (fun _ => rfl) l

@[simp] theorem option?_text_ofText? (s : Option String) : option? text? (ofText? s) = some s := by
  cases s <;> rfl

@[simp] theorem option?_artifact_ofArtifact? (a : Option Artifact) :
    option? artifact? (ofArtifact? a) = some a := by
  cases a <;> rfl

/-! ## Records -/

/-- The values of the fields of a record that is of a type and has exactly the fields of some
names. -/
def fields? (type : String) (names : List String) : Value → Option (List Value)
  | record t fields =>
    if t = type ∧ fields.map Prod.fst = names then some (fields.map Prod.snd) else none
  | _ => none

end TargetAssembly.Value
