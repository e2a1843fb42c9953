/-!
# Cutting a text at a separator

Labels, paths and file names are cut at their first or last separator, and known endings are
taken off.  Each cut is a function on the list of characters, so that it can be reasoned about
with the lemmas on `List.takeWhile` and `List.dropWhile`, and a function of the same name on
strings.
-/

namespace TargetAssembly.Text

/-! ## Cuts of a list of characters -/

/-- What stands before the first separator, or all if there is none. -/
def beforeFirst (sep : Char) (cs : List Char) : List Char :=
  cs.takeWhile (· != sep)

/-- What stands after the first separator, or nothing if there is none. -/
def afterFirst (sep : Char) (cs : List Char) : List Char :=
  (cs.dropWhile (· != sep)).drop 1

/-- What stands after the last separator, or all if there is none. -/
def afterLast (sep : Char) (cs : List Char) : List Char :=
  (cs.reverse.takeWhile (· != sep)).reverse

/-- What stands before the last separator, or all if there is none. -/
def beforeLast (sep : Char) (cs : List Char) : List Char :=
  if sep ∈ cs then ((cs.reverse.dropWhile (· != sep)).drop 1).reverse else cs

/-- The text without its leading separators. -/
def withoutLeading (sep : Char) (cs : List Char) : List Char :=
  cs.dropWhile (· == sep)

/-- The text without a given ending, once, or unchanged if it ends otherwise. -/
def withoutEnding (ending cs : List Char) : List Char :=
  if ending.isSuffixOf cs then cs.take (cs.length - ending.length) else cs

/-- The pieces between separators; there is one more of them than of separators. -/
def pieces (sep : Char) : List Char → List (List Char)
  | [] => [[]]
  | c :: cs =>
    if c = sep then [] :: pieces sep cs
    else match pieces sep cs with
      | [] => [[c]]
      | p :: ps => (c :: p) :: ps

/-! ## What the cuts leave -/

theorem not_mem_beforeFirst (sep : Char) (cs : List Char) : sep ∉ beforeFirst sep cs := by
  induction cs with
  | nil => simp [beforeFirst]
  | cons c cs ih =>
    by_cases h : c != sep
    · simp only [beforeFirst, List.takeWhile_cons, h, if_true, List.mem_cons, not_or]
      exact ⟨fun e => by simp [e] at h, ih⟩
    · simp [beforeFirst, h]

theorem beforeFirst_of_not_mem {sep : Char} {cs : List Char} (h : sep ∉ cs) :
    beforeFirst sep cs = cs := by
  induction cs with
  | nil => rfl
  | cons c cs ih =>
    simp only [List.mem_cons, not_or] at h
    have hc : (c != sep) = true := by simpa using Ne.symm h.1
    simp only [beforeFirst, List.takeWhile_cons, hc] at ih ⊢
    simpa using ih h.2

theorem afterLast_of_not_mem {sep : Char} {cs : List Char} (h : sep ∉ cs) :
    afterLast sep cs = cs := by
  have := @beforeFirst_of_not_mem sep cs.reverse (by simpa using h)
  simp only [beforeFirst] at this
  simp [afterLast, this]

theorem not_mem_afterLast (sep : Char) (cs : List Char) : sep ∉ afterLast sep cs := by
  simpa [afterLast, beforeFirst] using not_mem_beforeFirst sep cs.reverse

theorem withoutEnding_append (ending cs : List Char) :
    withoutEnding ending (cs ++ ending) = cs := by
  simp [withoutEnding]

end TargetAssembly.Text
