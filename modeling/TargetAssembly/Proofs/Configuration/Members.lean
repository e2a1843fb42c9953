import Mathlib.Tactic.Lemma
import TargetAssembly.Configuration.Text
import TargetAssembly.Proofs.FirstFlaw

/-!
# What the members of a configuration give

A member is accepted exactly when its value, or the default if it is missing, has the right form:
one of three, of which `Form` is the name.  Each of the three ways to read a member depends on this
value alone (`namesAt_eq`, `nameAt_eq`, `booleanAt_eq`), and a name that is accepted is not empty.
`ofMembers_eq_ok_iff` takes the reading of all members apart into the reading of each, and
`flaw?_ofMembers` says that the first member that is not accepted is the one that is reported.
-/

namespace TargetAssembly.Configuration

open Text (Point)

/-! ## Names -/

lemma ofString_eq_nil_iff {s : String} : Point.ofString s = [] ↔ s = "" := by
  rw [Point.ofString, Point.ofChars, List.map_eq_nil_iff, String.toList_eq_nil_iff]

/-- Texts are read as names unless one of them is empty. -/
lemma names?_map_text (names : List (List Point)) :
    names? (names.map .text) = if [] ∈ names then none else some names := by
  induction names with
  | nil => rfl
  | cons s names ih =>
    rw [List.map_cons, names?, ih]
    cases s with
    | nil => simp
    | cons p s => by_cases more : [] ∈ names <;> simp [more]

/-! ## Forms of values -/

/-- The form that the value of a key should have. -/
inductive Form where
  /-- A list of names. -/
  | names
  /-- A name. -/
  | name
  /-- Yes or no. -/
  | boolean

/-- A value is a name: a text that is not empty. -/
def IsName (v : Json) (s : List Point) : Prop := v = .text s ∧ s ≠ []

/-- A value lists names, in this order and as often as they stand here. -/
def ListsNames (v : Json) (names : List (List Point)) : Prop :=
  v = .list (names.map .text) ∧ [] ∉ names

namespace Form

/-- The values that have a form. -/
def Accepts : Form → Json → Prop
  | names, v => ∃ names, ListsNames v names
  | name, v => ∃ s, IsName v s
  | boolean, v => ∃ b, v = .bool b

/-- What is wrong with a value of a key that does not have a form. -/
def malformed : Form → String → Json → Malformed
  | names => .notNames
  | name => .notName
  | boolean => .notBoolean

/-- What the problem with such a value recommends. -/
def hint : Form → Option String
  | names => some "Expected a list of architecture names."
  | name => none
  | boolean => some "Use JSON true/false."

/-- The problem with such a value names the key and quotes the value. -/
lemma problem_malformed (form : Form) (key : String) (v : Json) :
    (form.malformed key v).problem =
      { kind := .configuration
        message := "Invalid build configuration `" ++ key ++ "` value."
        hint := form.hint
        context := [("key", key), ("value", v.quoted)] } := by
  cases form <;> rfl

/-- Neither nulls nor numbers nor empty texts have a form. -/
lemma not_accepts {form : Form} {v : Json}
    (h : v = .null ∨ (∃ i, v = .int i) ∨ (∃ x, v = .float x) ∨ v = .text []) :
    ¬ form.Accepts v := by
  cases form with
  | names =>
    rintro ⟨names, rfl, -⟩
    simp at h
  | name =>
    rintro ⟨s, rfl, nonempty⟩
    simp [nonempty] at h
  | boolean =>
    rintro ⟨b, rfl⟩
    simp at h

end Form

/-! ## Reading a value -/

/-- The name that a value is. -/
def asName? : Json → Option (List Point)
  | .text s => if s.isEmpty then none else some s
  | _ => none

/-- The names that a value lists. -/
def asNames? : Json → Option (List (List Point))
  | .list items => names? items
  | _ => none

/-- What a value says if it says yes or no. -/
def asBoolean? : Json → Option Bool
  | .bool b => some b
  | _ => none

lemma asName?_eq_some_iff {v : Json} {s : List Point} : asName? v = some s ↔ IsName v s := by
  cases v with
  | text t => cases t <;> simp +contextual [asName?, IsName, eq_comm]
  | _ => simp [asName?, IsName]

lemma names?_eq_some_iff {items : List Json} {names : List (List Point)} :
    names? items = some names ↔ items = names.map .text ∧ [] ∉ names := by
  constructor
  · intro h
    induction items generalizing names with
    | nil =>
      cases h
      exact ⟨rfl, List.not_mem_nil⟩
    | cons item items ih =>
      cases item with
      | text s =>
        cases s with
        | nil => cases h
        | cons p s =>
          obtain ⟨rest, read, rfl⟩ := Option.map_eq_some_iff.mp h
          obtain ⟨rfl, nonempty⟩ := ih read
          exact ⟨rfl, by simpa using nonempty⟩
      | _ => cases h
  · rintro ⟨rfl, nonempty⟩
    rw [names?_map_text, if_neg nonempty]

lemma asNames?_eq_some_iff {v : Json} {names : List (List Point)} :
    asNames? v = some names ↔ ListsNames v names := by
  cases v with
  | list items => simp [asNames?, names?_eq_some_iff, ListsNames]
  | _ => simp [asNames?, ListsNames]

lemma asBoolean?_eq_some_iff {v : Json} {b : Bool} : asBoolean? v = some b ↔ v = .bool b := by
  cases v <;> simp [asBoolean?]

/-- Whether a value has a form. -/
def Form.accepts : Form → Json → Bool
  | names, v => (asNames? v).isSome
  | name, v => (asName? v).isSome
  | boolean, v => (asBoolean? v).isSome

lemma Form.accepts_iff {form : Form} {v : Json} : form.accepts v = true ↔ form.Accepts v := by
  cases form <;>
    simp [accepts, Accepts, Option.isSome_iff_exists, asNames?_eq_some_iff, asName?_eq_some_iff,
      asBoolean?_eq_some_iff]

instance (form : Form) (v : Json) : Decidable (form.Accepts v) :=
  decidable_of_iff _ Form.accepts_iff

/-- What is read of a value of a key, which is wrong if nothing is. -/
def readAs {α : Type} (form : Form) (key : String) (v : Json) : Option α → Except Malformed α
  | some a => .ok a
  | none => .error (form.malformed key v)

section ReadAs

variable {α : Type} {form : Form} {key : String} {v : Json} {read : Option α}

lemma readAs_eq_ok_iff {a : α} : readAs form key v read = .ok a ↔ read = some a := by
  cases read <;> simp [readAs]

lemma flaw?_readAs (decided : read.isSome = form.accepts v) :
    flaw? (readAs form key v read) =
      if form.Accepts v then none else some (form.malformed key v) := by
  simp only [← Form.accepts_iff, ← decided]
  cases read <;> rfl

end ReadAs

/-! ## Reading a member -/

section Member

variable {key : String} {members : Members}

lemma namesAt_eq {v : Json} (value : (Json.member? key members).getD (.list []) = v) :
    namesAt key members = readAs .names key v (asNames? v) := by
  subst value
  cases found : Json.member? key members with
  | none => simp only [namesAt, found, Option.getD_none, asNames?, names?, readAs]
  | some v =>
    simp only [namesAt, found, Option.getD_some]
    cases v with
    | list items => cases read : names? items <;> simp only [asNames?, read, readAs, Form.malformed]
    | _ => rfl

lemma nameAt_eq {fallback : List Point} (nonempty : fallback ≠ []) {v : Json}
    (value : (Json.member? key members).getD (.text fallback) = v) :
    nameAt key fallback members = readAs .name key v (asName? v) := by
  subst value
  cases found : Json.member? key members with
  | none => simp [nameAt, found, asName?, nonempty, readAs]
  | some v =>
    simp only [nameAt, found, Option.getD_some]
    cases v with
    | text s => cases empty : s.isEmpty <;> simp [asName?, empty, readAs, Form.malformed]
    | _ => rfl

lemma booleanAt_eq {fallback : Bool} {v : Json}
    (value : (Json.member? key members).getD (.bool fallback) = v) :
    booleanAt key fallback members = readAs .boolean key v (asBoolean? v) := by
  subst value
  cases found : Json.member? key members with
  | none => simp [booleanAt, found, asBoolean?, readAs]
  | some v =>
    simp only [booleanAt, found, Option.getD_some]
    cases v <;> rfl

lemma namesAt_texts {names : List (List Point)}
    (h : Json.member? key members = some (.list (names.map .text))) :
    namesAt key members =
      if [] ∈ names then .error (.notNames key (.list (names.map .text))) else .ok names := by
  rw [namesAt_eq (by rw [h, Option.getD_some]), asNames?, names?_map_text]
  by_cases empty : [] ∈ names <;> simp only [empty, if_true, if_false, readAs, Form.malformed]

lemma nameAt_text {s : List Point} (fallback : List Point)
    (h : Json.member? key members = some (.text s)) :
    nameAt key fallback members = if s = [] then .error (.notName key (.text s)) else .ok s := by
  rw [nameAt, h]
  cases s <;> simp

lemma booleanAt_bool {b : Bool} (fallback : Bool)
    (h : Json.member? key members = some (.bool b)) : booleanAt key fallback members = .ok b := by
  rw [booleanAt, h]

lemma listsNames_of_namesAt {names : List (List Point)} (h : namesAt key members = .ok names) :
    ListsNames ((Json.member? key members).getD (.list [])) names := by
  rwa [namesAt_eq rfl, readAs_eq_ok_iff, asNames?_eq_some_iff] at h

lemma isName_of_nameAt {fallback s : List Point} (default : fallback ≠ [])
    (h : nameAt key fallback members = .ok s) :
    IsName ((Json.member? key members).getD (.text fallback)) s := by
  rwa [nameAt_eq default rfl, readAs_eq_ok_iff, asName?_eq_some_iff] at h

end Member

/-! ## All members -/

/-- Members give a configuration exactly if each of its fields is read off them. -/
lemma ofMembers_eq_ok_iff {members : Members} {p : Parsed} :
    ofMembers members = .ok p ↔
      namesAt "ios_multi_cpus" members = .ok p.multiCpus ∧
        nameAt "ios_cpu" (Point.ofString "x86_64") members = .ok p.cpu ∧
        nameAt "minimum_os" (Point.ofString "7.0") members = .ok p.minimumOs ∧
        booleanAt "run_memleaks" false members = .ok p.runMemleaks ∧
        nameAt "workspace_name" (Point.ofString "__main__") members = .ok p.workspaceName ∧
        booleanAt "legacy_external_runfiles" true members = .ok p.legacyExternalRunfiles ∧
        booleanAt "coverage_enabled" false members = .ok p.coverageEnabled := by
  simp only [ofMembers, bind_eq_ok_iff]
  constructor
  · rintro ⟨_, h₁, _, h₂, _, h₃, _, h₄, _, h₅, _, h₆, _, h₇, h⟩
    cases h
    exact ⟨h₁, h₂, h₃, h₄, h₅, h₆, h₇⟩
  · rintro ⟨h₁, h₂, h₃, h₄, h₅, h₆, h₇⟩
    exact ⟨_, h₁, _, h₂, _, h₃, _, h₄, _, h₅, _, h₆, _, h₇, rfl⟩

/-- The first member that is not accepted is reported. -/
lemma flaw?_ofMembers (members : Members) :
    flaw? (ofMembers members) =
      (flaw? (namesAt "ios_multi_cpus" members)).or
        ((flaw? (nameAt "ios_cpu" (Point.ofString "x86_64") members)).or
          ((flaw? (nameAt "minimum_os" (Point.ofString "7.0") members)).or
            ((flaw? (booleanAt "run_memleaks" false members)).or
              ((flaw? (nameAt "workspace_name" (Point.ofString "__main__") members)).or
                ((flaw? (booleanAt "legacy_external_runfiles" true members)).or
                  ((flaw? (booleanAt "coverage_enabled" false members)).or none)))))) :=
  -- no member is read in a way that depends on the others
  flaw?_bind fun _ => flaw?_bind fun _ => flaw?_bind fun _ => flaw?_bind fun _ =>
    flaw?_bind fun _ => flaw?_bind fun _ => flaw?_bind fun _ => rfl

end TargetAssembly.Configuration
