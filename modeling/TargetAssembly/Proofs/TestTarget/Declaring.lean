import TargetAssembly.Proofs.FirstFlaw
import TargetAssembly.Proofs.KeyedLookup
import TargetAssembly.Proofs.Value.Written
import TargetAssembly.Untyped.Target

/-!
# Which declarations give a target

A declaration gives a target exactly if each of its attributes has a value of the right kind: one
says yes or no, twelve list texts, and two may be labels.  `attributes` lists them in the order in
which they are checked.  The target then has what is declared, and the defaults of what is not;
otherwise the first attribute in that order with a value of another kind is reported, unless what
the report would quote has no text because a whole number in it has too many digits.  Nothing else
of a declaration counts: neither its order nor what it says under other names.
-/

namespace TargetAssembly

/-- A value that counts as a text. -/
def Value.IsText (v : Value) : Prop := (∃ s, v = .text s) ∨ ∃ e, v = .enumerated e

lemma Value.string?_eq_none_iff {v : Value} : v.string? = none ↔ ¬ v.IsText := by
  cases v <;> simp [string?, IsText]

lemma Value.isSome_string?_iff {v : Value} : v.string?.isSome = true ↔ v.IsText := by
  cases v <;> simp [string?, IsText]

namespace TestTarget

/-! ## Kinds of attributes -/

/-- What an attribute has to be. -/
inductive AttributeKind where
  /-- It says yes or no. -/
  | boolean
  /-- It lists texts. -/
  | texts
  /-- It may be a label. -/
  | label

/-- A value of a kind. -/
def Fits : AttributeKind → Value → Prop
  | .boolean, v => ∃ b, v = .bool b
  | .texts, v => ∃ items, (v = .list items ∨ v = .tuple items) ∧ ∀ i ∈ items, i.IsText
  | .label, v => v = .null ∨ v.IsText

/-- What is asked of a value of another kind, and the part of it that does not comply: all of it, or
the first item that is no text. -/
inductive Objection : AttributeKind → Value → (demand : String) → (culprit : Value) → Prop
  | notBoolean {v : Value} (h : ¬ Fits .boolean v) : Objection .boolean v "be a boolean." v
  | notList {v : Value} (h : ∀ items, v ≠ .list items ∧ v ≠ .tuple items) :
    Objection .texts v "be a list of strings." v
  | notText {v item : Value} {before after : List Value}
    (list : v = .list (before ++ item :: after) ∨ v = .tuple (before ++ item :: after))
    (texts : ∀ i ∈ before, i.IsText) (other : ¬ item.IsText) :
    Objection .texts v "contain only strings." item
  | notLabel {v : Value} (h : ¬ Fits .label v) : Objection .label v "be a label string." v

/-- An attribute is not declared or has a value of its kind. -/
def Passes (declared : List (String × Value)) (a : String × AttributeKind) : Prop :=
  ∀ v, declared.lookup a.1 = some v → Fits a.2 v

/-- The flaw of an attribute, if it has one. -/
def flawOf (declared : List (String × Value)) : String × AttributeKind → Option Malformed
  | (key, .boolean) => flaw? (booleanAttribute key declared)
  | (key, .texts) => flaw? (listAttribute key declared)
  | (key, .label) => flaw? (labelAttribute key declared)

/-! ## One attribute -/

section Attribute

variable {declared : List (String × Value)} {key : String}

lemma flaw?_booleanAttribute_iff {m : Malformed} :
    flaw? (booleanAttribute key declared) = some m ↔
      ∃ v, declared.lookup key = some v ∧ ¬ Fits .boolean v ∧ m = .notBoolean key v := by
  unfold booleanAttribute
  cases found : declared.lookup key with
  | none => simp [flaw?]
  | some v => cases v <;> simp [flaw?, Fits, eq_comm]

/-- The texts of a list are read up to the first item that is no text. -/
lemma textItems_eq_error_iff {items : List Value} {m : Malformed} :
    textItems key items = .error m ↔
      ∃ before item after, items = before ++ item :: after ∧ (∀ i ∈ before, i.IsText) ∧
        ¬ item.IsText ∧ m = .notText key item := by
  induction items with
  | nil => simp [textItems]
  | cons i items ih =>
    rw [textItems]
    cases string : i.string? with
    | none =>
      have other := Value.string?_eq_none_iff.mp string
      constructor
      · intro h
        exact ⟨[], i, items, rfl, nofun, other, (Except.error.inj h).symm⟩
      · rintro ⟨before, item, after, split, texts, -, rfl⟩
        -- the item itself is no text, so none stands before it
        cases before with
        | nil =>
          obtain ⟨rfl, -⟩ := List.cons.inj split
          rfl
        | cons j before =>
          obtain ⟨rfl, -⟩ := List.cons.inj split
          exact absurd (texts i List.mem_cons_self) other
    | some s =>
      have text : i.IsText := Value.isSome_string?_iff.mp (by rw [string]; rfl)
      have behind : (textItems key items).map (s :: ·) = .error m ↔
          textItems key items = .error m := by
        cases textItems key items <;> simp [Except.map]
      change (textItems key items).map (s :: ·) = .error m ↔ _
      rw [behind, ih]
      constructor
      · rintro ⟨before, item, after, rfl, texts, other, rfl⟩
        exact ⟨i :: before, item, after, rfl, List.forall_mem_cons.mpr ⟨text, texts⟩, other, rfl⟩
      · rintro ⟨before, item, after, split, texts, other, rfl⟩
        cases before with
        | nil =>
          obtain ⟨rfl, -⟩ := List.cons.inj split
          exact absurd text other
        | cons j before =>
          obtain ⟨rfl, rfl⟩ := List.cons.inj split
          exact ⟨before, item, after, rfl, fun i hi => texts i (List.mem_cons_of_mem _ hi), other,
            rfl⟩

lemma flaw?_listAttribute_iff {m : Malformed} :
    flaw? (listAttribute key declared) = some m ↔
      ∃ v, declared.lookup key = some v ∧
        (((∀ items, v ≠ .list items ∧ v ≠ .tuple items) ∧ m = .notList key v) ∨
          ∃ before item after,
            (v = .list (before ++ item :: after) ∨ v = .tuple (before ++ item :: after)) ∧
              (∀ i ∈ before, i.IsText) ∧ ¬ item.IsText ∧ m = .notText key item) := by
  unfold listAttribute
  cases found : declared.lookup key with
  | none => simp [flaw?]
  | some v =>
    cases v with
    | list items => simp [textItems_eq_error_iff]
    | tuple items => simp [textItems_eq_error_iff]
    | _ => simp [flaw?, eq_comm]

lemma flaw?_labelAttribute_iff {m : Malformed} :
    flaw? (labelAttribute key declared) = some m ↔
      ∃ v, declared.lookup key = some v ∧ ¬ Fits .label v ∧ m = .notLabel key v := by
  unfold labelAttribute
  cases found : declared.lookup key with
  | none => simp [flaw?]
  | some v => cases v <;> simp [flaw?, Fits, Value.IsText, Value.string?, eq_comm]

end Attribute

/-! ## Refusals -/

/-- What a malformed declaration is reported as, by the attribute, what is asked of it, and the
text of what does not comply. -/
def objection (label : Value) (key demand quoted : String) : Untyped.Problem :=
  { kind := .configuration
    message := .text ("Attribute `" ++ key ++ "` must " ++ demand)
    context := [(.text "target", label), (.text "value", .text quoted)] }

/-- How a declaration is refused for what does not comply: it is quoted in a problem, or a whole
number in it is too long for that. -/
inductive Refusal (label : Value) (key demand : String) (culprit : Value) : Untyped.Fault → Prop
  | reported {quoted : String} (text : culprit.written = .ok quoted) :
    Refusal label key demand culprit (.problem (objection label key demand quoted))
  | overlong (long : culprit.Overlong) :
    Refusal label key demand culprit (.misfit .tooManyDigits)

namespace Malformed

/-- The attribute that is malformed. -/
def key : Malformed → String
  | notBoolean key _ | notList key _ | notText key _ | notLabel key _ => key

/-- What is asked of it. -/
def demand : Malformed → String
  | notBoolean .. => "be a boolean."
  | notList .. => "be a list of strings."
  | notText .. => "contain only strings."
  | notLabel .. => "be a label string."

/-- What does not comply. -/
def culprit : Malformed → Value
  | notBoolean _ v | notList _ v | notText _ v | notLabel _ v => v

end Malformed

/-- A declaration is refused as its flaw says. -/
lemma refusal_iff {label : Value} {m : Malformed} {f : Untyped.Fault} :
    Untyped.refusal label m = f ↔ Refusal label m.key m.demand m.culprit f := by
  have refused : Untyped.refusal label m =
      match m.culprit.written with
      | .ok quoted => .problem (objection label m.key m.demand quoted)
      | .error misfit => .misfit misfit := by
    have problem : m.problem "" = m.culprit.written >>= fun quoted => .ok
        { kind := .configuration, message := "Attribute `" ++ m.key ++ "` must " ++ m.demand
          context := [("target", ""), ("value", quoted)] } := by
      cases m <;> rfl
    rw [Untyped.refusal, Untyped.malformed, problem]
    cases m.culprit.written <;> rfl
  rw [refused]
  constructor
  · rintro rfl
    cases text : m.culprit.written with
    | ok quoted => exact .reported text
    | error misfit =>
      obtain ⟨rfl, long⟩ := Value.written_eq_error_iff.mp text
      exact .overlong long
  · rintro (text | long)
    · rw [text]
    · rw [Value.written_eq_error_iff.mpr ⟨rfl, long⟩]

section Flaw

variable {declared : List (String × Value)} {key : String} {kind : AttributeKind}

/-- A flaw is an objection to a value that is declared. -/
lemma exists_objection {m : Malformed} (h : flawOf declared (key, kind) = some m) :
    m.key = key ∧ ∃ v, declared.lookup key = some v ∧ Objection kind v m.demand m.culprit := by
  cases kind with
  | boolean =>
    obtain ⟨v, found, other, rfl⟩ := flaw?_booleanAttribute_iff.mp h
    exact ⟨rfl, v, found, .notBoolean other⟩
  | texts =>
    obtain ⟨v, found, ⟨other, rfl⟩ | ⟨before, item, after, list, texts, other, rfl⟩⟩ :=
      flaw?_listAttribute_iff.mp h
    · exact ⟨rfl, v, found, .notList other⟩
    · exact ⟨rfl, v, found, .notText list texts other⟩
  | label =>
    obtain ⟨v, found, other, rfl⟩ := flaw?_labelAttribute_iff.mp h
    exact ⟨rfl, v, found, .notLabel other⟩

/-- An objection to a value that is declared is a flaw. -/
lemma exists_flaw {v culprit : Value} {demand : String} (found : declared.lookup key = some v)
    (h : Objection kind v demand culprit) :
    ∃ m, flawOf declared (key, kind) = some m ∧ m.key = key ∧ m.demand = demand ∧
      m.culprit = culprit := by
  cases h with
  | notBoolean other =>
    exact ⟨_, flaw?_booleanAttribute_iff.mpr ⟨v, found, other, rfl⟩, rfl, rfl, rfl⟩
  | notList other =>
    exact ⟨_, flaw?_listAttribute_iff.mpr ⟨v, found, .inl ⟨other, rfl⟩⟩, rfl, rfl, rfl⟩
  | notText list texts other =>
    exact ⟨_, flaw?_listAttribute_iff.mpr ⟨v, found, .inr ⟨_, _, _, list, texts, other, rfl⟩⟩,
      rfl, rfl, rfl⟩
  | notLabel other =>
    exact ⟨_, flaw?_labelAttribute_iff.mpr ⟨v, found, other, rfl⟩, rfl, rfl, rfl⟩

/-- A value is of its kind just if there is no objection to it. -/
lemma fits_iff {v : Value} : Fits kind v ↔ ∀ demand culprit, ¬ Objection kind v demand culprit := by
  constructor
  · rintro fits demand culprit (other | other | ⟨list, -, other⟩ | other)
    · exact other fits
    · obtain ⟨items, rfl | rfl, -⟩ := fits
      · exact (other items).1 rfl
      · exact (other items).2 rfl
    · obtain ⟨items, rfl | rfl, texts⟩ := fits <;> obtain list | list := list <;> cases list <;>
        exact other (texts _ (by simp))
    · exact other fits
  · intro none
    cases kind with
    | boolean => exact by_contra fun other => none _ _ (.notBoolean other)
    | label => exact by_contra fun other => none _ _ (.notLabel other)
    | texts =>
      by_cases list : ∃ items, v = .list items ∨ v = .tuple items
      · obtain ⟨items, list⟩ := list
        refine ⟨items, list, fun i hi => Value.isSome_string?_iff.mp ?_⟩
        cases first : items.find? (·.string?.isNone) with
        | none =>
          simpa [Option.ne_none_iff_isSome] using List.find?_eq_none.mp first i hi
        | some item =>
          obtain ⟨missing, before, after, rfl, texts⟩ := List.find?_eq_some_iff_append.mp first
          have other : ¬ item.IsText := Value.string?_eq_none_iff.mp (by simpa using missing)
          refine absurd (.notText list (fun j hj => Value.isSome_string?_iff.mp ?_) other)
            (none _ _)
          simpa using texts j hj
      · rw [not_exists] at list
        exact absurd (.notList fun items => not_or.mp (list items)) (none _ _)

lemma flawOf_eq_none_iff : flawOf declared (key, kind) = none ↔ Passes declared (key, kind) := by
  constructor
  · intro sound v found
    rw [fits_iff]
    intro demand culprit other
    obtain ⟨m, flawed, -⟩ := exists_flaw found other
    cases sound.symm.trans flawed
  · intro passes
    refine Option.eq_none_iff_forall_ne_some.mpr fun m flawed => ?_
    obtain ⟨-, v, found, other⟩ := exists_objection flawed
    exact fits_iff.mp (passes v found) _ _ other

end Flaw

/-! ## All attributes -/

/-- The attributes, in the order in which they are checked. -/
def attributes : List (String × AttributeKind) :=
  ("xctest", .boolean) :: Untyped.listAttributes.map (·, .texts) ++
    Untyped.labelAttributes.map (·, .label)

/-- Every attribute that is declared has a value of its kind. -/
def WellTyped (declared : List (String × Value)) : Prop := ∀ a ∈ attributes, Passes declared a

variable {declared : List (String × Value)}

/-- The first attribute with a flaw is reported. -/
lemma flaw?_ofDeclaration (label : String) (declared : List (String × Value)) :
    flaw? (ofDeclaration label declared) = attributes.findSome? (flawOf declared) := by
  simp only [attributes, Untyped.listAttributes, Untyped.labelAttributes, List.map_cons,
    List.map_nil, List.cons_append, List.nil_append, findSome?_cons_or, List.findSome?_nil]
  -- no attribute is read in a way that depends on the others
  exact flaw?_bind fun _ => flaw?_bind fun _ => flaw?_bind fun _ => flaw?_bind fun _ =>
    flaw?_bind fun _ => flaw?_bind fun _ => flaw?_bind fun _ => flaw?_bind fun _ =>
    flaw?_bind fun _ => flaw?_bind fun _ => flaw?_bind fun _ => flaw?_bind fun _ =>
    flaw?_bind fun _ => flaw?_bind fun _ => flaw?_bind fun _ => rfl

lemma findSome?_flawOf_eq_none_iff : attributes.findSome? (flawOf declared) = none ↔
    WellTyped declared := by
  rw [List.findSome?_eq_none_iff]
  exact forall₂_congr fun a _ => flawOf_eq_none_iff

/-! ## What is declared -/

/-- The value of a field of a target: the label that is given, and what is declared or, if nothing
is, the default. -/
def declaredField (label : Value) (declared : List (String × Value)) (name : String) : Value :=
  if name = "label" then label
  else if name = "is_xctest" then (declared.lookup "xctest").getD (.bool false)
  else if name ∈ Untyped.listAttributes then
    match declared.lookup name with
    | some (.list items) | some (.tuple items) => .tuple items
    | _ => .tuple []
  else (declared.lookup name).getD .null

/-- A field of a target that is read off a declaration, with what is stated kept as it is. -/
def restatedField (label : Value) (declared : List (String × Value)) (f : String × Value) :
    String × Value :=
  (f.1, if f.1 = "label" then label else Untyped.restated declared f.1 f.2)

section Field

variable {label : Value} {key : String}

lemma restated_of_booleanAttribute {b : Bool} (h : booleanAttribute "xctest" declared = .ok b) :
    restatedField label declared ("is_xctest", .bool b) =
      ("is_xctest", declaredField label declared "is_xctest") := by
  have read : (declared.lookup "xctest").getD (.bool false) = .bool b := by
    unfold booleanAttribute at h
    cases found : declared.lookup "xctest" with
    | none => simp_all
    | some v => cases v <;> simp_all
  have kept : Untyped.restated declared "is_xctest" (.bool b) = .bool b := by
    unfold Untyped.restated
    cases found : declared.lookup "is_xctest" with
    | none => rfl
    | some v => cases v <;> rfl
  simp [restatedField, declaredField, read, kept]

lemma restated_of_listAttribute (lists : key ∈ Untyped.listAttributes) {texts : List String}
    (h : listAttribute key declared = .ok texts) :
    restatedField label declared (key, .ofTexts texts) =
      (key, declaredField label declared key) := by
  have names : key ≠ "label" ∧ key ≠ "is_xctest" := by
    constructor <;> rintro rfl <;> exact absurd lists (by decide)
  have stated : Untyped.restated declared key (.ofTexts texts) =
      match declared.lookup key with
      | some (.list items) | some (.tuple items) => .tuple items
      | _ => .tuple [] := by
    unfold listAttribute at h
    unfold Untyped.restated
    cases found : declared.lookup key with
    | none =>
      simp only [found, Except.ok.injEq] at h
      rw [← h]
      rfl
    | some v => cases v <;> simp_all
  simp only [restatedField, declaredField, if_neg names.1, if_neg names.2, if_pos lists, stated]

lemma restated_of_labelAttribute (labels : key ∈ Untyped.labelAttributes) {text : Option String}
    (h : labelAttribute key declared = .ok text) :
    restatedField label declared (key, .ofText? text) =
      (key, declaredField label declared key) := by
  have names : key ≠ "label" ∧ key ≠ "is_xctest" ∧ key ∉ Untyped.listAttributes := by
    refine ⟨?_, ?_, ?_⟩
    · rintro rfl
      exact absurd labels (by decide)
    · rintro rfl
      exact absurd labels (by decide)
    · have apart : ∀ name ∈ Untyped.labelAttributes, name ∉ Untyped.listAttributes := by decide
      exact apart key labels
  have stated : Untyped.restated declared key (.ofText? text) =
      (declared.lookup key).getD .null := by
    unfold labelAttribute at h
    unfold Untyped.restated
    cases found : declared.lookup key with
    | none =>
      simp only [found, Except.ok.injEq] at h
      rw [← h]
      rfl
    | some v =>
      cases v <;> simp only [found, Value.string?, Except.ok.injEq, reduceCtorEq] at h <;>
        subst h <;> simp [Value.ofText?, labels]
  simp only [restatedField, declaredField, if_neg names.1, if_neg names.2.1, if_neg names.2.2,
    stated]

end Field

lemma ofDeclaration_eq_ok_iff {label : String} {a : TestTarget} :
    ofDeclaration label declared = .ok a ↔
      booleanAttribute "xctest" declared = .ok a.isHosted ∧
        listAttribute "srcs" declared = .ok a.srcs ∧
        listAttribute "non_arc_srcs" declared = .ok a.nonArcSrcs ∧
        listAttribute "hdrs" declared = .ok a.hdrs ∧
        listAttribute "deps" declared = .ok a.deps ∧
        listAttribute "bundles" declared = .ok a.bundles ∧
        listAttribute "non_propagated_deps" declared = .ok a.nonPropagatedDeps ∧
        listAttribute "storyboards" declared = .ok a.storyboards ∧
        listAttribute "xcdatamodels" declared = .ok a.dataModels ∧
        listAttribute "resources" declared = .ok a.resources ∧
        listAttribute "sdk_frameworks" declared = .ok a.sdkFrameworks ∧
        listAttribute "plugins" declared = .ok a.plugins ∧
        listAttribute "ios_device_arg" declared = .ok a.deviceArgs ∧
        labelAttribute "xctest_app" declared = .ok a.hostLabel ∧
        labelAttribute "ios_test_target_device" declared = .ok a.targetDevice ∧
        a.label = label := by
  simp only [ofDeclaration, bind_eq_ok_iff]
  constructor
  · rintro ⟨_, h₁, _, h₂, _, h₃, _, h₄, _, h₅, _, h₆, _, h₇, _, h₈, _, h₉, _, h₁₀, _, h₁₁, _, h₁₂,
      _, h₁₃, _, h₁₄, _, h₁₅, h⟩
    cases h
    exact ⟨h₁, h₂, h₃, h₄, h₅, h₆, h₇, h₈, h₉, h₁₀, h₁₁, h₁₂, h₁₃, h₁₄, h₁₅, rfl⟩
  · rintro ⟨h₁, h₂, h₃, h₄, h₅, h₆, h₇, h₈, h₉, h₁₀, h₁₁, h₁₂, h₁₃, h₁₄, h₁₅, rfl⟩
    exact ⟨_, h₁, _, h₂, _, h₃, _, h₄, _, h₅, _, h₆, _, h₇, _, h₈, _, h₉, _, h₁₀, _, h₁₁, _, h₁₂,
      _, h₁₃, _, h₁₄, _, h₁₅, rfl⟩

/-- The target that a declaration gives if all of its attributes have values of their kinds. -/
def declaredTarget (label : Value) (declared : List (String × Value)) : Value :=
  .record "TargetAttributes" (fieldNames.map fun name => (name, declaredField label declared name))

/-- What is read and stated again is what was declared. -/
lemma declare_of_ofDeclaration {a : TestTarget} (label : Value)
    (h : ofDeclaration "" declared = .ok a) :
    Untyped.declare label declared = .ok (declaredTarget label declared) := by
  obtain ⟨isHosted, srcs, nonArcSrcs, hdrs, deps, bundles, nonPropagatedDeps, storyboards,
    dataModels, resources, sdkFrameworks, plugins, deviceArgs, hostLabel, targetDevice, -⟩ :=
      ofDeclaration_eq_ok_iff.mp h
  have first : restatedField label declared ("label", .text a.label) =
      ("label", declaredField label declared "label") := rfl
  have fields : Untyped.declare label declared =
      .ok (.record "TargetAttributes" [
        restatedField label declared ("label", .text a.label),
        restatedField label declared ("is_xctest", .bool a.isHosted),
        restatedField label declared ("srcs", .ofTexts a.srcs),
        restatedField label declared ("non_arc_srcs", .ofTexts a.nonArcSrcs),
        restatedField label declared ("hdrs", .ofTexts a.hdrs),
        restatedField label declared ("deps", .ofTexts a.deps),
        restatedField label declared ("bundles", .ofTexts a.bundles),
        restatedField label declared ("non_propagated_deps", .ofTexts a.nonPropagatedDeps),
        restatedField label declared ("storyboards", .ofTexts a.storyboards),
        restatedField label declared ("xcdatamodels", .ofTexts a.dataModels),
        restatedField label declared ("resources", .ofTexts a.resources),
        restatedField label declared ("sdk_frameworks", .ofTexts a.sdkFrameworks),
        restatedField label declared ("xctest_app", .ofText? a.hostLabel),
        restatedField label declared ("plugins", .ofTexts a.plugins),
        restatedField label declared ("ios_device_arg", .ofTexts a.deviceArgs),
        restatedField label declared ("ios_test_target_device", .ofText? a.targetDevice)]) := by
    rw [Untyped.declare, h]
    rfl
  rw [fields, first, restated_of_booleanAttribute isHosted,
    restated_of_listAttribute (by decide) srcs, restated_of_listAttribute (by decide) nonArcSrcs,
    restated_of_listAttribute (by decide) hdrs, restated_of_listAttribute (by decide) deps,
    restated_of_listAttribute (by decide) bundles,
    restated_of_listAttribute (by decide) nonPropagatedDeps,
    restated_of_listAttribute (by decide) storyboards,
    restated_of_listAttribute (by decide) dataModels,
    restated_of_listAttribute (by decide) resources,
    restated_of_listAttribute (by decide) sdkFrameworks,
    restated_of_labelAttribute (by decide) hostLabel,
    restated_of_listAttribute (by decide) plugins, restated_of_listAttribute (by decide) deviceArgs,
    restated_of_labelAttribute (by decide) targetDevice]
  rfl

lemma declare_of_wellTyped (label : Value) (h : WellTyped declared) :
    Untyped.declare label declared = .ok (declaredTarget label declared) := by
  have sound := findSome?_flawOf_eq_none_iff.mpr h
  rw [← flaw?_ofDeclaration "", flaw?_eq_none_iff] at sound
  obtain ⟨a, read⟩ := sound
  exact declare_of_ofDeclaration label read

lemma declare_of_flaw (label : Value) {m : Malformed}
    (h : attributes.findSome? (flawOf declared) = some m) :
    Untyped.declare label declared = .error (Untyped.refusal label m) := by
  rw [← flaw?_ofDeclaration "", flaw?_eq_some_iff] at h
  rw [Untyped.declare, h]
  rfl

/-! ## Declarations -/

/-- An attribute with a value of another kind, before which no other has one. -/
def IsFirstOffender (declared : List (String × Value)) (key demand : String) (culprit : Value) :
    Prop :=
  ∃ before kind after v, attributes = before ++ (key, kind) :: after ∧
    (∀ a ∈ before, Passes declared a) ∧ declared.lookup key = some v ∧
      Objection kind v demand culprit

lemma declare_eq_error_iff {label : Value} {f : Untyped.Fault} :
    Untyped.declare label declared = .error f ↔
      ∃ key demand culprit, IsFirstOffender declared key demand culprit ∧
        Refusal label key demand culprit f := by
  constructor
  · intro h
    cases flawed : attributes.findSome? (flawOf declared) with
    | none =>
      rw [declare_of_wellTyped label (findSome?_flawOf_eq_none_iff.mp flawed)] at h
      cases h
    | some m =>
      cases (declare_of_flaw label flawed).symm.trans h
      obtain ⟨before, ⟨key, kind⟩, after, split, sound, flaw⟩ :=
        findSome?_eq_some_iff_split.mp flawed
      obtain ⟨rfl, v, found, other⟩ := exists_objection flaw
      exact ⟨m.key, m.demand, m.culprit, ⟨before, kind, after, v, split,
        fun a ha => flawOf_eq_none_iff.mp (sound a ha), found, other⟩, refusal_iff.mp rfl⟩
  · rintro ⟨key, demand, culprit, ⟨before, kind, after, v, split, sound, found, other⟩, refused⟩
    obtain ⟨m, flaw, rfl, rfl, rfl⟩ := exists_flaw found other
    rw [← refusal_iff.mpr refused]
    exact declare_of_flaw label (findSome?_eq_some_iff_split.mpr
      ⟨before, _, after, split, fun a ha => flawOf_eq_none_iff.mpr (sound a ha), flaw⟩)

section Congruence

variable {declared' : List (String × Value)}
  (same : ∀ a ∈ attributes, declared'.lookup a.1 = declared.lookup a.1)

include same

lemma flawOf_congr {a : String × AttributeKind} (ha : a ∈ attributes) :
    flawOf declared' a = flawOf declared a := by
  obtain ⟨key, kind⟩ := a
  have found : declared'.lookup key = declared.lookup key := same _ ha
  cases kind <;>
    simp only [flawOf, booleanAttribute, listAttribute, labelAttribute, found]

lemma declaredField_congr (label : Value) {name : String} (h : name ∈ fieldNames) :
    declaredField label declared' name = declaredField label declared name := by
  have sorts : ∀ name ∈ fieldNames, name = "label" ∨ name = "is_xctest" ∨
      name ∈ Untyped.listAttributes ∨ name ∈ Untyped.labelAttributes := by decide
  have hosted : declared'.lookup "xctest" = declared.lookup "xctest" :=
    same ("xctest", .boolean) (by simp [attributes])
  obtain rfl | rfl | lists | labels := sorts name h
  · rfl
  · simp [declaredField, hosted]
  · have found : declared'.lookup name = declared.lookup name :=
      same (name, .texts) (by simp [attributes, lists])
    simp only [declaredField, hosted, found]
  · have found : declared'.lookup name = declared.lookup name :=
      same (name, .label) (by simp [attributes, labels])
    simp only [declaredField, hosted, found]

/-- Only what is declared under the names of attributes counts. -/
lemma declare_congr (label : Value) :
    Untyped.declare label declared' = Untyped.declare label declared := by
  have flaws : attributes.findSome? (flawOf declared') = attributes.findSome? (flawOf declared) :=
    findSome?_congr fun a ha => flawOf_congr same ha
  have fields : declaredTarget label declared' = declaredTarget label declared := by
    rw [declaredTarget, declaredTarget, List.map_congr_left fun name hname =>
      congrArg (Prod.mk name) (declaredField_congr same label hname)]
  cases flawed : attributes.findSome? (flawOf declared) with
  | none =>
    rw [declare_of_wellTyped label (findSome?_flawOf_eq_none_iff.mp flawed),
      declare_of_wellTyped label (findSome?_flawOf_eq_none_iff.mp (flaws.trans flawed)), fields]
  | some m => rw [declare_of_flaw label flawed, declare_of_flaw label (flaws.trans flawed)]

end Congruence

/-- A declaration gives a target exactly if every attribute that is declared has a value of its
kind; then it gives the label, what is declared, and the defaults of what is not.  Otherwise it is
refused for the first attribute with a value of another kind, of which the message quotes all or the
first item that is no text; where a whole number in that is too long to be quoted, this is what goes
wrong instead.  Neither the order of a declaration nor what it says under other names makes a
difference. -/
theorem declare_exact (label : Value) (declared : List (String × Value)) :
    ((∃ target, Untyped.declare label declared = .ok target) ↔ WellTyped declared) ∧
      (∀ target, Untyped.declare label declared = .ok target →
        target = declaredTarget label declared) ∧
      (∀ f, Untyped.declare label declared = .error f ↔
        ∃ key demand culprit, IsFirstOffender declared key demand culprit ∧
          Refusal label key demand culprit f) ∧
      (∀ declared' : List (String × Value), (Keyed.keys declared).Nodup →
        declared'.Perm declared →
          Untyped.declare label declared' = Untyped.declare label declared) ∧
      ∀ before after key v, key ∉ attributes.map Prod.fst → declared = before ++ after →
        Untyped.declare label (before ++ (key, v) :: after) = Untyped.declare label declared := by
  have accepted : (∃ target, Untyped.declare label declared = .ok target) ↔ WellTyped declared := by
    refine ⟨fun ⟨target, h⟩ => ?_, fun h => ⟨_, declare_of_wellTyped label h⟩⟩
    cases flawed : attributes.findSome? (flawOf declared) with
    | none => exact findSome?_flawOf_eq_none_iff.mp flawed
    | some m => cases (declare_of_flaw label flawed).symm.trans h
  refine ⟨accepted, ?_, fun f => declare_eq_error_iff, ?_, ?_⟩
  · intro target h
    rw [declare_of_wellTyped label (accepted.mp ⟨target, h⟩)] at h
    exact (Except.ok.inj h).symm
  · intro declared' nodup perm
    have nodup' : (Keyed.keys declared').Nodup := (perm.map Prod.fst).nodup_iff.mpr nodup
    exact declare_congr (fun a _ => (Keyed.perm_iff_lookup nodup' nodup).mp perm a.1) label
  · rintro before after key v other rfl
    refine declare_congr (fun a ha => ?_) label
    have apart : a.1 ≠ key := fun e => other (e ▸ List.mem_map_of_mem ha)
    simp only [List.lookup_append, List.lookup_cons, beq_eq_false_iff_ne.mpr apart]

/-- A declaration with a source that comes twice, a label that is a member of an enumeration, and a
name that is no attribute. -/
def acceptable : List (String × Value) :=
  [("is_xctest", .bool true), ("srcs", .list [.text "b.m", .text "a.m", .text "b.m"]),
    ("xctest_app", .enumerated ⟨"BuildMode", "APPLICATION", "application"⟩)]

/-- A declaration with a label that is a number and, before it in the order of checking, a list with
an item that is no text. -/
def unacceptable : List (String × Value) :=
  [("xctest_app", .int 3), ("deps", .tuple [.text "//a:b", .null, .int 1])]

/-- A declaration that says by a number whether it is a test, and by one that is too long. -/
def unquotable : List (String × Value) := [("xctest", .int Value.leastOverlong)]

lemma isFirstOffender_unquotable :
    IsFirstOffender unquotable "xctest" "be a boolean." (.int Value.leastOverlong) := by
  have number : ¬ Fits .boolean (.int Value.leastOverlong) := by
    rintro ⟨b, ⟨⟩⟩
  exact ⟨[], .boolean, attributes.tail, _, rfl, nofun, rfl, .notBoolean number⟩

/-- Of the declarations here one is accepted, one is reported, and one is refused without a
report. -/
theorem declare_acceptable :
    (WellTyped acceptable ∧ ∃ target, Untyped.declare (.text "//a:t") acceptable = .ok target ∧
        target = declaredTarget (.text "//a:t") acceptable) ∧
      (IsFirstOffender unacceptable "deps" "contain only strings." .null ∧
        Untyped.declare (.text "//a:t") unacceptable =
          .error (.problem (objection (.text "//a:t") "deps" "contain only strings." "None"))) ∧
      (IsFirstOffender unquotable "xctest" "be a boolean." (.int Value.leastOverlong) ∧
        Untyped.declare (.text "//a:t") unquotable = .error (.misfit .tooManyDigits)) ∧
      ((Keyed.keys unacceptable).Nodup ∧ unacceptable.reverse.Perm unacceptable ∧
        Untyped.declare (.text "//a:t") unacceptable.reverse =
          Untyped.declare (.text "//a:t") unacceptable) ∧
      "label" ∉ attributes.map Prod.fst ∧
        Untyped.declare (.text "//a:t") (("label", .int 1) :: acceptable) =
          Untyped.declare (.text "//a:t") acceptable := by
  have typed : WellTyped acceptable := by
    rw [← findSome?_flawOf_eq_none_iff]
    rfl
  have offender : IsFirstOffender unacceptable "deps" "contain only strings." .null := by
    have before : (attributes.take 4).findSome? (flawOf unacceptable) = none := rfl
    have tuple (items : List Value) : Value.tuple items = .list items ∨
        Value.tuple items = .tuple items := .inr rfl
    refine ⟨attributes.take 4, .texts, attributes.drop 5, _, rfl, fun a ha => ?_, rfl,
      .notText (tuple ([.text "//a:b"] ++ .null :: [.int 1])) ?_
        (Value.string?_eq_none_iff.mp rfl)⟩
    · exact flawOf_eq_none_iff.mp (List.findSome?_eq_none_iff.mp before a ha)
    · exact List.forall_mem_singleton.mpr (.inl ⟨_, rfl⟩)
  have accepted := declare_exact (.text "//a:t") acceptable
  have refused := declare_exact (.text "//a:t") unacceptable
  have unreported := declare_exact (.text "//a:t") unquotable
  obtain ⟨target, read⟩ := accepted.1.mpr typed
  have distinct : (Keyed.keys unacceptable).Nodup := by decide
  have other : "label" ∉ attributes.map Prod.fst := by decide
  exact ⟨⟨typed, target, read, accepted.2.1 target read⟩,
    ⟨offender, (refused.2.2.1 _).mpr ⟨_, _, _, offender, .reported rfl⟩⟩,
    ⟨isFirstOffender_unquotable, (unreported.2.2.1 _).mpr
      ⟨_, _, _, isFirstOffender_unquotable, .overlong Value.overlong_leastOverlong⟩⟩,
    ⟨distinct, List.reverse_perm _, refused.2.2.2.1 _ distinct (List.reverse_perm _)⟩,
    other, accepted.2.2.2.2 [] acceptable "label" (.int 1) other rfl⟩

/-- Not every declaration that gives no target is reported as a problem. -/
theorem not_always_reported :
    ¬ ∀ (label : Value) (declared : List (String × Value)), ¬ WellTyped declared →
      ∃ p, Untyped.declare label declared = .error (.problem p) := by
  intro always
  have refused : Untyped.declare (.text "//a:t") unquotable = .error (.misfit .tooManyDigits) :=
    declare_eq_error_iff.mpr
      ⟨_, _, _, isFirstOffender_unquotable, .overlong Value.overlong_leastOverlong⟩
  obtain ⟨p, reported⟩ := always (.text "//a:t") unquotable fun typed => by
    cases (declare_of_wellTyped (.text "//a:t") typed).symm.trans refused
  cases refused.symm.trans reported

end TestTarget

end TargetAssembly
