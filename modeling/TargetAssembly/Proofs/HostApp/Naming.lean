import TargetAssembly.Proofs.Registry.Outputs

/-!
# The outputs of a host application and of a target of its label

The outputs of a host application are named for what follows the first colon of its label; those of
a target for what follows the last one, or for the last component of the package if there is no
colon.  The package is read in the same way by both, so that the outputs agree just if the names do:
`statedName_eq_name_iff` says for which labels this is, and `ofLabel_exact` what it means for the
package that a target of that label registers.
-/

namespace TargetAssembly

namespace Text

variable {sep : Char} {cs : List Char}

/-! ## Cuts at the first colon and behind the last slash -/

lemma afterFirst_append_cons {before : List Char} (h : sep ∉ before) (after : List Char) :
    afterFirst sep (before ++ sep :: after) = after := by
  rw [afterFirst, List.dropWhile_append_of_pos (passed_of_not_mem h)]
  simp

lemma afterFirst_of_not_mem (h : sep ∉ cs) : afterFirst sep cs = [] := by
  rw [← List.append_nil cs, afterFirst, List.dropWhile_append_of_pos (passed_of_not_mem h)]
  rfl

lemma not_mem_withoutLeading {c : Char} (h : c ∉ cs) : c ∉ withoutLeading sep cs :=
  fun hc => h ((List.dropWhile_suffix _).subset hc)

/-- Leading separators are dropped in front of another character. -/
lemma withoutLeading_append_cons {c : Char} (other : c ≠ sep) (before after : List Char) :
    withoutLeading sep (before ++ c :: after) = withoutLeading sep before ++ c :: after := by
  have stays : (c :: after).dropWhile (· == sep) = c :: after :=
    List.dropWhile_cons_of_neg (by simpa using other)
  rw [withoutLeading, List.dropWhile_append, stays]
  cases rest : before.dropWhile (· == sep) with
  | nil => simp [withoutLeading, rest]
  | cons d ds => simp [withoutLeading, rest]

lemma afterLast_cons_self (sep : Char) (cs : List Char) :
    afterLast sep (sep :: cs) = afterLast sep cs := by
  by_cases h : sep ∈ cs
  · obtain ⟨before, after, rfl, free⟩ := exists_split_last h
    rw [afterLast_append_cons free, ← List.cons_append, afterLast_append_cons free]
  · rw [afterLast_of_not_mem h]
    exact afterLast_append_cons h []

/-- What stands behind the last separator does not depend on leading ones. -/
lemma afterLast_withoutLeading (sep : Char) (cs : List Char) :
    afterLast sep (withoutLeading sep cs) = afterLast sep cs := by
  induction cs with
  | nil => rfl
  | cons c cs ih =>
    by_cases leading : c = sep
    · subst leading
      have dropped : withoutLeading c (c :: cs) = withoutLeading c cs :=
        List.dropWhile_cons_of_pos (by simp)
      rw [dropped, ih, afterLast_cons_self]
    · have kept : withoutLeading sep (c :: cs) = c :: cs :=
        withoutLeading_eq_self (by simpa using leading)
      rw [kept]

end Text

/-! ## Labels whose names agree -/

namespace Label

/-- A label states its name once: behind its only colon, or not at all, as it has no colon and
nothing behind its last slash. -/
inductive StatesOnce : String → Prop
  /-- The name follows the only colon. -/
  | full {package name : String} (before : ':' ∉ package.toList) (after : ':' ∉ name.toList) :
    StatesOnce (package ++ ":" ++ name)
  /-- The label is empty. -/
  | empty : StatesOnce ""
  /-- The label ends with a slash. -/
  | directory {path : String} (colon : ':' ∉ path.toList) : StatesOnce (path ++ "/")

variable {label : String}

/-- What follows the first colon is read as it stands. -/
lemma statedName_of_split {before after : List Char} (split : label.toList = before ++ ':' :: after)
    (free : ':' ∉ before) : (statedName label).toList = after := by
  have cut : Text.withoutLeading '/' label.toList =
      Text.withoutLeading '/' before ++ ':' :: after := by
    rw [split]
    exact Text.withoutLeading_append_cons (by decide) before after
  rw [statedName, cut, Text.afterFirst_append_cons (Text.not_mem_withoutLeading free),
    String.toList_ofList]

lemma statedName_of_not_mem (bare : ':' ∉ label.toList) : statedName label = "" := by
  rw [statedName, Text.afterFirst_of_not_mem (Text.not_mem_withoutLeading bare),
    String.ofList_nil]

/-- The name of a label without a colon is its last component. -/
lemma name_of_not_mem (bare : ':' ∉ label.toList) : name label = lastComponent label := by
  rw [name, if_neg bare, package, String.toList_ofList,
    Text.beforeFirst_of_not_mem (Text.not_mem_withoutLeading bare),
    Text.afterLast_withoutLeading, lastComponent]

lemma colon_not_mem_name (colon : ':' ∈ label.toList) : ':' ∉ (name label).toList := by
  rw [name, if_pos colon, String.toList_ofList]
  exact Text.not_mem_afterLast ':' label.toList

/-- What follows the first colon is the name of the label just if the label states it once. -/
lemma statedName_eq_name_iff : statedName label = name label ↔ StatesOnce label := by
  constructor
  · intro same
    by_cases colon : ':' ∈ label.toList
    · obtain ⟨before, after, split, free⟩ := List.eq_append_cons_of_mem colon
      -- a second colon would be in what follows the first one, and in no name
      have once : ':' ∉ after := by
        rw [← statedName_of_split split free, same]
        exact colon_not_mem_name colon
      have whole : label = String.ofList before ++ ":" ++ String.ofList after := by
        rw [← String.toList_inj, split]
        simp
      rw [whole]
      exact .full (by simpa using free) (by simpa using once)
    · rw [statedName_of_not_mem colon, name_of_not_mem colon] at same
      obtain ⟨-, rfl | ⟨path, whole⟩⟩ := isLastComponent_iff.mpr same
      · exact .empty
      · rw [String.append_empty] at whole
        subst whole
        exact .directory fun hc => colon (by simp [hc])
  · intro once
    cases once with
    | @full package file before after =>
      have split : (package ++ ":" ++ file).toList = package.toList ++ ':' :: file.toList := by simp
      have colon : ':' ∈ (package ++ ":" ++ file).toList := by simp [split]
      rw [← String.toList_inj, statedName_of_split split before, name, if_pos colon, split,
        Text.afterLast_append_cons after, String.toList_ofList]
    | empty => rfl
    | @directory path colon =>
      have bare : ':' ∉ (path ++ "/").toList := by simpa using colon
      have ends : IsLastComponent (path ++ "/") "" :=
        ⟨by decide, .inr ⟨path, (String.append_empty).symm⟩⟩
      rw [statedName_of_not_mem bare, name_of_not_mem bare, isLastComponent_iff.mp ends]

lemma inPackage_right_inj {package file file' : String} :
    inPackage package file = inPackage package file' ↔ file = file' := by
  rw [inPackage, inPackage]
  split_ifs
  · rfl
  · exact String.append_right_inj _

end Label

/-! ## The outputs of both -/

namespace Registry

section

variable {a : TestTarget} {link : LinkPlan} {format minimumOs : String} {symbols : SymbolOutput}
  {b : Bundle}

lemma answer_bundle_eq_ok_iff {r : Registry} {library : Library} :
    r.resolver.answer (.bundle a library link format minimumOs symbols) = .ok b ↔
      bundle a link format minimumOs symbols = .ok b := by
  simp only [resolver, answer]
  cases bundle a link format minimumOs symbols with
  | error e =>
    constructor
    · intro h
      cases h
    · intro h
      cases h
  | ok b' =>
    constructor
    · intro h
      exact congrArg Except.ok (Except.ok.inj h)
    · intro h
      cases h
      rfl

/-- Packaging that succeeds makes the package and the debug symbols of a target. -/
lemma files_of_bundle (packed : bundle a link format minimumOs symbols = .ok b) :
    b.files = [packageOf a, symbolsNamed a "test"] := by
  rw [bundle] at packed
  cases filled : Template.fill format a.name with
  | error e =>
    rw [filled] at packed
    cases packed
  | ok directory =>
    rw [filled] at packed
    cases packed
    rfl

end

end Registry

namespace HostApp

variable (a : TestTarget) (frameworks : List String)

lemma outputPath_eq_iff : outputPath a.label = a.outputPath ↔ Label.StatesOnce a.label := by
  rw [outputPath, TestTarget.outputPath, TestTarget.package, TestTarget.name,
    Label.inPackage_right_inj, Label.statedName_eq_name_iff]

lemma ipa_eq_packageOf_iff :
    (ofLabel a.label frameworks).ipa = Registry.packageOf a ↔ Label.StatesOnce a.label := by
  rw [← outputPath_eq_iff, ofLabel, Registry.packageOf, Artifact.mk.injEq, String.append_left_inj]
  exact and_iff_left rfl

/-- The package of an application is no file of debug symbols. -/
lemma ipa_ne_symbolsNamed (label : String) :
    (ofLabel label frameworks).ipa ≠ Registry.symbolsNamed a "test" := by
  intro same
  have paths : outputPath label ++ ".ipa" = a.outputPath ++ ".test.dSYM" := by
    have path := congrArg Artifact.path same
    rwa [Registry.symbolsNamed, String.append_assoc, String.append_assoc] at path
  obtain ⟨-, endings⟩ := Registry.append_ending_inj (by decide) (by decide) paths
  exact absurd endings (by decide)

/-- What is packaged for a target holds the package of an application of its label just if the label
states its name once. -/
lemma ipa_mem_files_iff {link : LinkPlan} {format minimumOs : String} {symbols : SymbolOutput}
    {b : Bundle} (packed : Registry.bundle a link format minimumOs symbols = .ok b) :
    (ofLabel a.label frameworks).ipa ∈ b.files ↔ Label.StatesOnce a.label := by
  have other := ipa_ne_symbolsNamed a frameworks a.label
  rw [Registry.files_of_bundle packed, List.mem_cons, List.mem_singleton, or_iff_left other]
  exact ipa_eq_packageOf_iff a frameworks

/-! ## Main result -/

/-- The package and the binary of an application have one path, with different endings.  A registry
that is asked to bundle a target of the label of the application registers the package of the
application just if the label states its name once.  With the templates of applications and of unit
tests it never fails to answer. -/
theorem ofLabel_exact :
    (∃ path, (ofLabel a.label frameworks).ipa = { path := path ++ ".ipa" } ∧
      (ofLabel a.label frameworks).linkedBinary = { path := path ++ "_bin" }) ∧
    (∀ (r : Registry) (library : Library) (link : LinkPlan) (format minimumOs : String)
      (symbols : SymbolOutput) (b : Bundle),
      r.resolver.answer (.bundle a library link format minimumOs symbols) = .ok b →
      ((ofLabel a.label frameworks).ipa ∈ b.files ↔ Label.StatesOnce a.label)) ∧
    ∀ (r : Registry) (library : Library) (link : LinkPlan) (minimumOs : String)
      (symbols : SymbolOutput), ∀ format ∈ [appBundleFormat, xctestBundleFormat],
      ∃ b : Bundle,
        r.resolver.answer (.bundle a library link format minimumOs symbols) = .ok b := by
  refine ⟨⟨outputPath a.label, rfl, rfl⟩, ?_, ?_⟩
  · intro r library link format minimumOs symbols b answered
    exact ipa_mem_files_iff a frameworks (Registry.answer_bundle_eq_ok_iff.mp answered)
  · intro r library link minimumOs symbols format known
    have packed : ∃ b, Registry.bundle a link format minimumOs symbols = .ok b := by
      simp only [List.mem_cons, List.not_mem_nil, or_false] at known
      rcases known with rfl | rfl
      · rw [Registry.bundle, Template.fill_appBundleFormat]
        exact ⟨_, rfl⟩
      · rw [Registry.bundle, Template.fill_xctestBundleFormat]
        exact ⟨_, rfl⟩
    obtain ⟨b, packed⟩ := packed
    exact ⟨b, Registry.answer_bundle_eq_ok_iff.mpr packed⟩

/-- A target of the root package, whose label has its only colon in front of the name. -/
def rootTarget : TestTarget := { label := "//:main" }

/-- The package of an application of the root package is among the files that are registered for the
target of its label. -/
theorem ofLabel_root :
    appBundleFormat ∈ [appBundleFormat, xctestBundleFormat] ∧ Label.StatesOnce rootTarget.label ∧
    ∃ b : Bundle, ({} : Registry).resolver.answer
        (.bundle rootTarget {} .forApplication appBundleFormat "7.0" .test) = .ok b ∧
      (ofLabel rootTarget.label []).ipa ∈ b.files := by
  have known : appBundleFormat ∈ [appBundleFormat, xctestBundleFormat] := by simp
  have once : Label.StatesOnce ("//" ++ ":" ++ "main") := .full (by decide) (by decide)
  obtain ⟨-, agree, answers⟩ := ofLabel_exact rootTarget []
  obtain ⟨b, answered⟩ := answers {} {} .forApplication "7.0" .test appBundleFormat known
  exact ⟨known, once, b, answered, (agree _ _ _ _ _ _ b answered).mpr once⟩

/-- The package of an application is not always among the files that are registered for a target of
its label. -/
theorem ofLabel_apart :
    ¬ ∀ (label : String) (b : Bundle), ({} : Registry).resolver.answer
        (.bundle { label } {} .forApplication appBundleFormat "7.0" .test) = .ok b →
      (ofLabel label []).ipa ∈ b.files := by
  intro agree
  -- the name is left out, and only the target finds it in the package
  have packed : Registry.bundle { label := "//app" } .forApplication appBundleFormat "7.0" .test =
      .ok { directory := "Payload/app.app"
            files := [{ path := "app/app.ipa" }, { path := "app/app.test.dSYM" }]
            settings := [("IPHONEOS_DEPLOYMENT_TARGET", "7.0")] } := by
    rw [Registry.bundle, Template.fill_appBundleFormat]
    rfl
  have shared := agree "//app" _ (Registry.answer_bundle_eq_ok_iff.mpr packed)
  exact absurd shared (by decide)

end HostApp

end TargetAssembly
