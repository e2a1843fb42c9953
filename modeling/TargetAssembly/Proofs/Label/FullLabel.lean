import Mathlib.Data.List.Basic
import Mathlib.Tactic.Lemma
import TargetAssembly.ArtifactSet.Basic
import TargetAssembly.TestTarget

/-!
# Labels written in full

A label that is written in full states a package, which may be that of the root, and a name.  Both
are read off it again, and a path below a package determines the package and the last component.
-/

namespace TargetAssembly

namespace Text

/-! ## Cuts at a separator -/

variable {sep : Char}

/-- A search for a separator goes past characters without one. -/
lemma passed_of_not_mem {cs : List Char} (h : sep ∉ cs) : ∀ c ∈ cs, (c != sep) = true := by
  intro c hc
  exact bne_iff_ne.mpr fun same => h (same ▸ hc)

lemma beforeFirst_append_cons {before : List Char} (h : sep ∉ before) (after : List Char) :
    beforeFirst sep (before ++ sep :: after) = before := by
  rw [beforeFirst, List.takeWhile_append_of_pos (passed_of_not_mem h)]
  simp

lemma afterLast_append_cons {after : List Char} (h : sep ∉ after) (before : List Char) :
    afterLast sep (before ++ sep :: after) = after := by
  have turned : (before ++ sep :: after).reverse = after.reverse ++ sep :: before.reverse := by simp
  -- seen from the end, the last separator is the first one
  have cut := beforeFirst_append_cons (mt List.mem_reverse.mp h) before.reverse
  rw [beforeFirst, ← turned] at cut
  rw [afterLast, cut, List.reverse_reverse]

lemma withoutLeading_eq_self {cs : List Char} (h : cs.head? ≠ some sep) :
    withoutLeading sep cs = cs := by
  cases cs with
  | nil => rfl
  | cons c cs =>
    have other : (c == sep) = false := by simpa using h
    rw [withoutLeading, List.dropWhile_cons, other, if_neg Bool.false_ne_true]

end Text

/-- A label that states both a package and a name. -/
structure FullLabel where
  /-- The package; that of the root is empty. -/
  package : String
  /-- The name. -/
  name : String
  colon_package : ':' ∉ package.toList
  slash_package : package.toList.head? ≠ some '/'
  name_ne : name ≠ ""
  colon_name : ':' ∉ name.toList
  slash_name : '/' ∉ name.toList

namespace FullLabel

variable (l : FullLabel)

/-- The text of a label. -/
def text : String := "//" ++ l.package ++ ":" ++ l.name

lemma toList_text :
    l.text.toList = '/' :: '/' :: (l.package.toList ++ ':' :: l.name.toList) := by
  simp [text]

@[simp] lemma package_text : Label.package l.text = l.package := by
  have rest : (l.package.toList ++ ':' :: l.name.toList).head? ≠ some '/' := by
    cases h : l.package.toList with
    | nil => simp
    | cons c cs => simpa [h] using l.slash_package
  have stripped : Text.withoutLeading '/' l.text.toList =
      l.package.toList ++ ':' :: l.name.toList := by
    rw [toList_text]
    exact Text.withoutLeading_eq_self rest
  rw [Label.package, stripped, Text.beforeFirst_append_cons l.colon_package, String.ofList_toList]

@[simp] lemma name_text : Label.name l.text = l.name := by
  have colon : ':' ∈ l.text.toList := by simp [toList_text]
  have cut : Text.afterLast ':' l.text.toList = l.name.toList := by
    rw [toList_text]
    exact Text.afterLast_append_cons l.colon_name ('/' :: '/' :: l.package.toList)
  rw [Label.name, if_pos colon, cut, String.ofList_toList]

lemma text_eq {l m : FullLabel} (package : l.package = m.package) (name : l.name = m.name) :
    l.text = m.text := by
  rw [text, package, name, text]

end FullLabel

/-! ## Paths below packages -/

namespace Label

variable {package other file file' : String}

lemma inPackage_of_ne (h : package ≠ "") (file : String) :
    inPackage package file = package ++ "/" ++ file := by
  rw [inPackage, if_neg (mt String.isEmpty_iff.mp h)]

lemma inPackage_append (package file ending : String) :
    inPackage package (file ++ ending) = inPackage package file ++ ending := by
  rw [inPackage, inPackage]
  split_ifs
  · rfl
  · rw [← String.append_assoc]

lemma afterLast_inPackage (h : '/' ∉ file.toList) :
    Text.afterLast '/' (inPackage package file).toList = file.toList := by
  rw [inPackage]
  split_ifs
  · exact Text.afterLast_of_not_mem h
  · have slash : (package ++ "/" ++ file).toList = package.toList ++ '/' :: file.toList := by simp
    rw [slash, Text.afterLast_append_cons h]

/-- A path below a package has its last component and its package from nowhere else. -/
lemma inPackage_inj (h : '/' ∉ file.toList) (h' : '/' ∉ file'.toList)
    (same : inPackage package file = inPackage other file') : package = other ∧ file = file' := by
  have files : file = file' := by
    rw [← String.toList_inj, ← afterLast_inPackage h, same, afterLast_inPackage h']
  subst files
  -- without the file, a package that is not that of the root is left with a slash
  have directories : inPackage package "" = inPackage other "" := by
    rw [← String.append_left_inj file, ← inPackage_append, ← inPackage_append, String.empty_append]
    exact same
  refine ⟨?_, rfl⟩
  rw [inPackage, inPackage] at directories
  split_ifs at directories with root root' root'
  · rw [String.isEmpty_iff.mp root, String.isEmpty_iff.mp root']
  · simp at directories
  · simp at directories
  · simpa using directories

end Label

/-!
## Parts of paths and of file names

Files that a build makes are often named for a file that it reads: for the last component of its
path, for what stands there before the last dot, or for what is left of it without a known ending.
These parts are described here by what they are put together with to give the whole, and each of
them is what the cut of the same kind leaves.
-/

namespace Text

variable {sep : Char} {cs after : List Char}

lemma exists_split_last (h : sep ∈ cs) :
    ∃ before after, cs = before ++ sep :: after ∧ sep ∉ after := by
  obtain ⟨after, before, turned, free⟩ := List.eq_append_cons_of_mem (List.mem_reverse.mpr h)
  refine ⟨before.reverse, after.reverse, ?_, mt List.mem_reverse.mp free⟩
  rw [← List.reverse_reverse cs, turned]
  simp

lemma beforeLast_of_not_mem (h : sep ∉ cs) : beforeLast sep cs = cs := if_neg h

lemma beforeLast_append_cons (h : sep ∉ after) (before : List Char) :
    beforeLast sep (before ++ sep :: after) = before := by
  have turned : (before ++ sep :: after).reverse = after.reverse ++ sep :: before.reverse := by simp
  have passed := passed_of_not_mem (mt List.mem_reverse.mp h)
  rw [beforeLast, if_pos (by simp), turned, List.dropWhile_append_of_pos passed]
  simp

end Text

/-! ### Last components -/

/-- The last component of a path: no slash is in it, and it is all of the path or follows a slash.
-/
structure IsLastComponent (path component : String) : Prop where
  slash : '/' ∉ component.toList
  ends : path = component ∨ ∃ directory, path = directory ++ "/" ++ component

lemma isLastComponent_iff {path component : String} :
    IsLastComponent path component ↔ component = lastComponent path := by
  constructor
  · rintro ⟨slash, rfl | ⟨directory, rfl⟩⟩
    · rw [lastComponent, Text.afterLast_of_not_mem slash, String.ofList_toList]
    · have split : (directory ++ "/" ++ component).toList =
          directory.toList ++ '/' :: component.toList := by simp
      rw [lastComponent, split, Text.afterLast_append_cons slash, String.ofList_toList]
  · rintro rfl
    refine ⟨?_, ?_⟩
    · rw [lastComponent, String.toList_ofList]
      exact Text.not_mem_afterLast '/' path.toList
    · by_cases h : '/' ∈ path.toList
      · obtain ⟨before, after, split, free⟩ := Text.exists_split_last h
        refine .inr ⟨String.ofList before, ?_⟩
        rw [lastComponent, split, Text.afterLast_append_cons free, ← String.toList_inj, split]
        simp
      · rw [lastComponent, Text.afterLast_of_not_mem h, String.ofList_toList]
        exact .inl rfl

/-! ### Stems -/

/-- The stem of a file name: what stands before its last dot, or all of it if it has none. -/
inductive IsStem : String → String → Prop
  /-- The name has a last dot, and no dot behind it. -/
  | cut {ending : String} (dot : '.' ∉ ending.toList) (stem : String) :
    IsStem (stem ++ "." ++ ending) stem
  /-- The name has no dot. -/
  | kept {name : String} (dot : '.' ∉ name.toList) : IsStem name name

lemma isStem_iff {name stem : String} :
    IsStem name stem ↔ stem = String.ofList (Text.beforeLast '.' name.toList) := by
  constructor
  · intro h
    cases h with
    | @cut ending dot stem =>
      have split : (stem ++ "." ++ ending).toList = stem.toList ++ '.' :: ending.toList := by simp
      rw [split, Text.beforeLast_append_cons dot, String.ofList_toList]
    | kept dot => rw [Text.beforeLast_of_not_mem dot, String.ofList_toList]
  · rintro rfl
    by_cases h : '.' ∈ name.toList
    · obtain ⟨before, after, split, free⟩ := Text.exists_split_last h
      have whole : name = String.ofList before ++ "." ++ String.ofList after := by
        rw [← String.toList_inj, split]
        simp
      rw [split, Text.beforeLast_append_cons free, whole]
      exact .cut (by simpa using free) _
    · rw [Text.beforeLast_of_not_mem h, String.ofList_toList]
      exact .kept h

/-- A stem has no character that the name does not have. -/
lemma IsStem.not_mem {name stem : String} {c : Char} (h : IsStem name stem)
    (free : c ∉ name.toList) : c ∉ stem.toList := by
  cases h with
  | cut dot stem => exact fun within => free (by simp [within])
  | kept dot => exact free

end TargetAssembly
