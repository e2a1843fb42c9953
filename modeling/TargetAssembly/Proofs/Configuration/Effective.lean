import Mathlib.Logic.Relation
import TargetAssembly.Proofs.Configuration.RoundTrip
import TargetAssembly.Proofs.Json.Blanks

/-!
# What a configuration depends on

The text of an object counts only through seven values: for each key of `checkedKeys` the value of
the last member of its name, or else the default.  `parse_effective` says what these values give,
and which of them is reported if one does not have the form that it should have: the first in the
order of the keys, not in that of the text.  So neither the order of members of different names, nor
members of other names, nor values that a later member of the name replaces, nor blanks count for
anything.  Each key is read by one function of the value alone, and the reading of all of them is
taken apart in `ofMembers_eq_ok_iff` and `flaw?_ofMembers`.
-/

namespace TargetAssembly.Configuration

open Text (Point)

/-! ## Keys -/

/-- The keys that a configuration is read from, in the order in which their values are checked. -/
def checkedKeys : List (String × Form) :=
  [("ios_multi_cpus", .names), ("ios_cpu", .name), ("minimum_os", .name),
    ("run_memleaks", .boolean), ("workspace_name", .name), ("legacy_external_runfiles", .boolean),
    ("coverage_enabled", .boolean)]

/-- The value that a key has in the configuration that nothing is said of. -/
def defaultValue (key : String) : Json := ((parsed {}).entries.lookup key).getD .null

/-- The value of the last member of a name. -/
def lastNamed? (ms : Members) (key : String) : Option Json := ms.reverse.lookup (Point.ofString key)

/-- The value of a key: that of the last member of its name, or else the default. -/
def effective (ms : Members) (key : String) : Json := (lastNamed? ms key).getD (defaultValue key)

/-- The values of the keys are those of the fields of a configuration. -/
structure Gives (v : String → Json) (p : Parsed) : Prop where
  multiCpus : ListsNames (v "ios_multi_cpus") p.multiCpus
  cpu : IsName (v "ios_cpu") p.cpu
  minimumOs : IsName (v "minimum_os") p.minimumOs
  runMemleaks : v "run_memleaks" = .bool p.runMemleaks
  workspaceName : IsName (v "workspace_name") p.workspaceName
  legacyExternalRunfiles : v "legacy_external_runfiles" = .bool p.legacyExternalRunfiles
  coverageEnabled : v "coverage_enabled" = .bool p.coverageEnabled

/-- What is wrong with the value of a key, if anything is. -/
def flawOf (v : String → Json) (k : String × Form) : Option Malformed :=
  if k.2.Accepts (v k.1) then none else some (k.2.malformed k.1 (v k.1))

/-- This is the first key whose value does not have its form. -/
def IsFirstOffender (v : String → Json) (key : String) (form : Form) : Prop :=
  ∃ before after, checkedKeys = before ++ (key, form) :: after ∧
    (∀ k ∈ before, k.2.Accepts (v k.1)) ∧ ¬ form.Accepts (v key)

lemma flawOf_eq_none_iff {v : String → Json} {k : String × Form} :
    flawOf v k = none ↔ k.2.Accepts (v k.1) := by
  by_cases h : k.2.Accepts (v k.1) <;> simp [flawOf, h]

section FlawOf

variable (v : String → Json) (key : String)

lemma flawOf_names :
    flawOf v (key, .names) = flaw? (readAs .names key (v key) (asNames? (v key))) :=
  (flaw?_readAs rfl).symm

lemma flawOf_name : flawOf v (key, .name) = flaw? (readAs .name key (v key) (asName? (v key))) :=
  (flaw?_readAs rfl).symm

lemma flawOf_boolean :
    flawOf v (key, .boolean) = flaw? (readAs .boolean key (v key) (asBoolean? (v key))) :=
  (flaw?_readAs rfl).symm

end FlawOf

lemma findSome?_flawOf_eq_some_iff {v : String → Json} {what : Malformed} :
    checkedKeys.findSome? (flawOf v) = some what ↔
      ∃ key form, IsFirstOffender v key form ∧ what = form.malformed key (v key) := by
  rw [findSome?_eq_some_iff_split]
  constructor
  · rintro ⟨before, ⟨key, form⟩, after, split, sound, flawed⟩
    by_cases h : form.Accepts (v key)
    · cases (if_pos h).symm.trans flawed
    · exact ⟨key, form, ⟨before, after, split, fun k hk => flawOf_eq_none_iff.mp (sound k hk), h⟩,
        (Option.some.inj ((if_neg h).symm.trans flawed)).symm⟩
  · rintro ⟨key, form, ⟨before, after, split, sound, h⟩, rfl⟩
    exact ⟨before, (key, form), after, split, fun k hk => flawOf_eq_none_iff.mpr (sound k hk),
      if_neg h⟩

/-! ## Reading the members of an object -/

section OfMembers

variable (ms : Members)

/-- The value that is found of a key, or else the default, is the value of the key. -/
lemma member?_getD (key : String) {fallback : Json} (h : defaultValue key = fallback) :
    (Json.member? key (Keyed.ofList ms)).getD fallback = effective ms key := by
  rw [effective, lastNamed?, ← Keyed.lookup_ofList, h]
  rfl

variable {ms} {key : String}

lemma namesAt_ofList (default : defaultValue key = .list []) :
    namesAt key (Keyed.ofList ms) =
      readAs .names key (effective ms key) (asNames? (effective ms key)) :=
  namesAt_eq (member?_getD ms key default)

lemma nameAt_ofList {fallback : List Point} (default : defaultValue key = .text fallback)
    (nonempty : fallback ≠ []) :
    nameAt key fallback (Keyed.ofList ms) =
      readAs .name key (effective ms key) (asName? (effective ms key)) :=
  nameAt_eq nonempty (member?_getD ms key default)

lemma booleanAt_ofList {fallback : Bool} (default : defaultValue key = .bool fallback) :
    booleanAt key fallback (Keyed.ofList ms) =
      readAs .boolean key (effective ms key) (asBoolean? (effective ms key)) :=
  booleanAt_eq (member?_getD ms key default)

/-- The members give what the values of the keys give, or the first flaw among these. -/
lemma ofMembers_ofList (ms : Members) :
    (∀ p, ofMembers (Keyed.ofList ms) = .ok p ↔ Gives (effective ms) p) ∧
      flaw? (ofMembers (Keyed.ofList ms)) = checkedKeys.findSome? (flawOf (effective ms)) := by
  simp only [ofMembers_eq_ok_iff, flaw?_ofMembers]
  rw [namesAt_ofList rfl, nameAt_ofList rfl (by decide), nameAt_ofList rfl (by decide),
    booleanAt_ofList rfl, nameAt_ofList rfl (by decide), booleanAt_ofList rfl, booleanAt_ofList rfl]
  constructor
  · intro p
    simp only [readAs_eq_ok_iff, asNames?_eq_some_iff, asName?_eq_some_iff, asBoolean?_eq_some_iff]
    constructor
    · rintro ⟨multiCpus, cpu, minimumOs, runMemleaks, workspaceName, legacy, coverage⟩
      exact ⟨multiCpus, cpu, minimumOs, runMemleaks, workspaceName, legacy, coverage⟩
    · rintro ⟨multiCpus, cpu, minimumOs, runMemleaks, workspaceName, legacy, coverage⟩
      exact ⟨multiCpus, cpu, minimumOs, runMemleaks, workspaceName, legacy, coverage⟩
  · simp only [checkedKeys, findSome?_cons_or, List.findSome?_nil, flawOf_names, flawOf_name,
      flawOf_boolean]

end OfMembers

/-! ## Reading a text -/

section Parse

variable {raw : List Char} {ms : Members}

/-- A text is read as what its members give. -/
lemma parse_of_text (text : Json.ObjectText raw ms) :
    parse raw = (ofMembers (Keyed.ofList ms)).mapError .malformed := by
  have read := Json.read_eq_object_iff.mpr ⟨ms, text, rfl⟩
  cases given : ofMembers (Keyed.ofList ms) with
  | ok p => exact parse_of_ok read given
  | error what => exact parse_of_error read given

lemma parse_eq_ok_iff (text : Json.ObjectText raw ms) {p : Parsed} :
    parse raw = .ok p ↔ Gives (effective ms) p := by
  rw [parse_of_text text, ← (ofMembers_ofList ms).1]
  cases ofMembers (Keyed.ofList ms) <;> simp [Except.mapError]

lemma parse_eq_error_iff (text : Json.ObjectText raw ms) {e : ParseError} :
    parse raw = .error e ↔ ∃ key form, IsFirstOffender (effective ms) key form ∧
      e = .malformed (form.malformed key (effective ms key)) := by
  have flaw (what : Malformed) := @findSome?_flawOf_eq_some_iff (effective ms) what
  simp only [← (ofMembers_ofList ms).2, flaw?_eq_some_iff] at flaw
  rw [parse_of_text text]
  constructor
  · intro h
    cases given : ofMembers (Keyed.ofList ms) with
    | ok p =>
      rw [given] at h
      cases h
    | error what =>
      rw [given] at h
      obtain ⟨key, form, first, rfl⟩ := (flaw what).mp given
      exact ⟨key, form, first, (Except.error.inj h).symm⟩
  · rintro ⟨key, form, first, rfl⟩
    rw [(flaw _).mpr ⟨key, form, first, rfl⟩]
    rfl

lemma exists_parse_iff (text : Json.ObjectText raw ms) :
    (∃ p, parse raw = .ok p) ↔ ∀ k ∈ checkedKeys, k.2.Accepts (effective ms k.1) := by
  simp only [← flawOf_eq_none_iff, ← List.findSome?_eq_none_iff, ← (ofMembers_ofList ms).2,
    flaw?_eq_none_iff, parse_eq_ok_iff text, (ofMembers_ofList ms).1]

end Parse

/-! ## Members that count for nothing -/

section Congruence

variable {ms ms' : Members}

/-- The values of the keys are the same in two objects. -/
def SameValues (ms ms' : Members) : Prop :=
  ∀ k ∈ checkedKeys, effective ms k.1 = effective ms' k.1

/-- A change of the members of an object that counts for nothing. -/
inductive Harmless : Members → Members → Prop where
  /-- Two members of different names change places. -/
  | swap {before after : Members} {m m' : List Point × Json} (apart : m.1 ≠ m'.1) :
    Harmless (before ++ m :: m' :: after) (before ++ m' :: m :: after)
  /-- A member is added whose name is no key. -/
  | unknown {before after : Members} {m : List Point × Json}
    (other : ∀ k ∈ checkedKeys, Point.ofString k.1 ≠ m.1) :
    Harmless (before ++ after) (before ++ m :: after)
  /-- A member is added before another of its name. -/
  | earlier {before after : Members} {m : List Point × Json} (again : m.1 ∈ Keyed.keys after) :
    Harmless (before ++ after) (before ++ m :: after)

lemma lastNamed?_append (before after : Members) (key : String) :
    lastNamed? (before ++ after) key = (lastNamed? after key).or (lastNamed? before key) := by
  rw [lastNamed?, List.reverse_append, List.lookup_append]
  rfl

lemma lastNamed?_singleton (m : List Point × Json) (key : String) :
    lastNamed? [m] key = if Point.ofString key = m.1 then some m.2 else none := by
  obtain ⟨name, v⟩ := m
  by_cases h : Point.ofString key = name <;> simp [lastNamed?, h]

lemma lastNamed?_cons (m : List Point × Json) (after : Members) (key : String) :
    lastNamed? (m :: after) key =
      (lastNamed? after key).or (if Point.ofString key = m.1 then some m.2 else none) := by
  rw [← List.singleton_append, lastNamed?_append, lastNamed?_singleton]

lemma lastNamed?_eq_none_iff {key : String} :
    lastNamed? ms key = none ↔ Point.ofString key ∉ Keyed.keys ms := by
  rw [lastNamed?, Keyed.lookup_eq_none_iff, Keyed.keys, Keyed.keys, List.map_reverse,
    List.mem_reverse]

lemma Harmless.lastNamed? (h : Harmless ms ms') {k : String × Form} (hk : k ∈ checkedKeys) :
    lastNamed? ms k.1 = lastNamed? ms' k.1 := by
  cases h with
  | @swap before after m m' apart =>
    simp only [lastNamed?_append, lastNamed?_cons, Option.or_assoc]
    by_cases first : Point.ofString k.1 = m.1
    · rw [if_neg (first ▸ apart), Option.none_or, Option.none_or]
    · rw [if_neg first, Option.none_or, Option.none_or]
  | unknown other =>
    simp only [lastNamed?_append, lastNamed?_cons, if_neg (other k hk), Option.or_none]
  | @earlier before after m again =>
    simp only [lastNamed?_append, lastNamed?_cons, Option.or_assoc]
    by_cases replaced : Point.ofString k.1 = m.1
    · have found : lastNamed? after k.1 ≠ none := by
        rw [Ne, lastNamed?_eq_none_iff, replaced, not_not]
        exact again
      obtain ⟨v, last⟩ := Option.ne_none_iff_exists'.mp found
      rw [last, Option.some_or, Option.some_or]
    · rw [if_neg replaced, Option.none_or]

lemma sameValues_of_harmless (h : Relation.EqvGen Harmless ms ms') : SameValues ms ms' := by
  induction h with
  | rel ms ms' h => exact fun k hk => congrArg (Option.getD · _) (h.lastNamed? hk)
  | refl ms => exact fun k hk => rfl
  | symm ms ms' _ ih => exact fun k hk => (ih k hk).symm
  | trans ms ms' ms'' _ _ first second => exact fun k hk => (first k hk).trans (second k hk)

lemma sameValues_of_perm (perm : ms.Perm ms') (distinct : (Keyed.keys ms).Nodup) :
    SameValues ms ms' := by
  have distinct' : (Keyed.keys ms').Nodup := (perm.map Prod.fst).nodup_iff.mp distinct
  have reversed (l : Members) (h : (Keyed.keys l).Nodup) : (Keyed.keys l.reverse).Nodup := by
    rwa [Keyed.keys, List.map_reverse, List.nodup_reverse]
  have both : ms.reverse.Perm ms'.reverse :=
    ms.reverse_perm.trans (perm.trans ms'.reverse_perm.symm)
  intro k hk
  exact congrArg (Option.getD · _)
    ((Keyed.perm_iff_lookup (reversed ms distinct) (reversed ms' distinct')).mp both _)

lemma Gives.congr {v v' : String → Json} (same : ∀ k ∈ checkedKeys, v k.1 = v' k.1)
    {p : Parsed} (h : Gives v p) : Gives v' p := by
  simp only [checkedKeys, List.forall_mem_cons] at same
  obtain ⟨multiCpus, cpu, minimumOs, runMemleaks, workspaceName, legacy, coverage, -⟩ := same
  exact ⟨multiCpus ▸ h.multiCpus, cpu ▸ h.cpu, minimumOs ▸ h.minimumOs,
    runMemleaks ▸ h.runMemleaks, workspaceName ▸ h.workspaceName,
    legacy ▸ h.legacyExternalRunfiles, coverage ▸ h.coverageEnabled⟩

lemma ofMembers_congr (same : SameValues ms ms') :
    ofMembers (Keyed.ofList ms) = ofMembers (Keyed.ofList ms') := by
  refine eq_of_flaw? (fun p h => ?_) ?_
  · rw [(ofMembers_ofList ms).1] at h
    rw [(ofMembers_ofList ms').1]
    exact h.congr same
  · rw [(ofMembers_ofList ms).2, (ofMembers_ofList ms').2]
    exact findSome?_congr fun k hk => by rw [flawOf, flawOf, same k hk]

lemma parse_congr {raw raw' : List Char} (text : Json.ObjectText raw ms)
    (text' : Json.ObjectText raw' ms') (same : SameValues ms ms') : parse raw = parse raw' := by
  rw [parse_of_text text, parse_of_text text', ofMembers_congr same]

lemma parse_congr_blanks {raw raw' : List Char} (text : Json.ObjectText raw ms)
    (text' : Json.ObjectText raw' ms')
    (same : Json.withoutBlanks false raw = Json.withoutBlanks false raw') :
    parse raw = parse raw' := by
  have bound := Json.read_congr_blanks (Json.read_eq_object_iff.mpr ⟨ms, text, rfl⟩)
    (Json.read_eq_object_iff.mpr ⟨ms', text', rfl⟩) same
  rw [parse_of_text text, parse_of_text text', Json.object.inj bound]

end Congruence

/-! ## Main result -/

/-- Reading the text of an object depends on the last value of each of seven keys alone, or on the
default where the key is not mentioned.  It comes to a configuration exactly if each value has its
form, and then to the one with just these values, names with lone halves of surrogate pairs
included; otherwise it reports the first value, in the order of the keys, that does not.  Nulls,
numbers and empty texts have no form.  Two texts of objects are read alike if the values of the keys
are the same, in particular if they differ in blanks alone, in the order of members whose names are
distinct, or by any number of harmless changes. -/
theorem parse_effective (raw : List Char) :
    (∀ bound, Json.read raw = .ok (.object bound) ↔
        ∃ ms, Json.ObjectText raw ms ∧ bound = Keyed.ofList ms) ∧
      (∀ ms, Json.ObjectText raw ms →
        ((∃ p, parse raw = .ok p) ↔ ∀ k ∈ checkedKeys, k.2.Accepts (effective ms k.1)) ∧
          (∀ p, parse raw = .ok p ↔ Gives (effective ms) p) ∧
          (∀ e, parse raw = .error e ↔ ∃ key form, IsFirstOffender (effective ms) key form ∧
            e = .malformed (form.malformed key (effective ms key))) ∧
          ∀ raw' ms', Json.ObjectText raw' ms' →
            SameValues ms ms' ∨ Json.withoutBlanks false raw = Json.withoutBlanks false raw' ∨
                (ms.Perm ms' ∧ (Keyed.keys ms).Nodup) ∨ Relation.EqvGen Harmless ms ms' →
              parse raw = parse raw') ∧
      (∀ (form : Form) (key : String) (v : Json), (form.malformed key v).problem =
        { kind := .configuration
          message := "Invalid build configuration `" ++ key ++ "` value."
          hint := form.hint
          context := [("key", key), ("value", v.quoted)] }) ∧
      ∀ (form : Form) (v : Json),
        v = .null ∨ (∃ i, v = .int i) ∨ (∃ x, v = .float x) ∨ v = .text [] → ¬ form.Accepts v := by
  refine ⟨fun bound => Json.read_eq_object_iff, fun ms text => ?_, Form.problem_malformed,
    fun form v => Form.not_accepts⟩
  refine ⟨exists_parse_iff text, fun p => parse_eq_ok_iff text, fun e => parse_eq_error_iff text,
    fun raw' ms' text' alike => ?_⟩
  obtain same | same | ⟨perm, distinct⟩ | changes := alike
  · exact parse_congr text text' same
  · exact parse_congr_blanks text text' same
  · exact parse_congr text text' (sameValues_of_perm perm distinct)
  · exact parse_congr text text' (sameValues_of_harmless changes)

/-- A null that a later member replaces, and a member whose name is no key. -/
def replaced : Members :=
  [(Point.ofString "ios_cpu", .null), (Point.ofString "x", .bool true),
    (Point.ofString "ios_cpu", .ofString "arm64")]

/-- The member that counts among these. -/
def replacing : Members := [(Point.ofString "ios_cpu", .ofString "arm64")]

/-- Two values without their form; the key of the second is checked first. -/
def misfits : Members :=
  [(Point.ofString "run_memleaks", .null), (Point.ofString "ios_cpu", .ofString "")]

def replacedText : List Char :=
  "\n\x7b\"ios_cpu\":null,\"x\": true,\"ios_cpu\":\"arm64\"\x7d".toList

def replacingText : List Char := "\x7b\"ios_cpu\":\"arm64\"\x7d".toList

def misfitsText : List Char := "\x7b\"run_memleaks\":null,\"ios_cpu\":\"\"\x7d".toList

/-- A name that is half of a surrogate pair. -/
def halved : Members := [(Point.ofString "ios_cpu", .text [.half 0xd800])]

def halvedText : List Char := "\x7b\"ios_cpu\":\"\\ud800\"\x7d".toList

/-- A null that is replaced and a name that is no key change nothing, half of a surrogate pair is a
name, and of two values without their form the one that is checked first is reported. -/
theorem parse_effective_replaced :
    (Json.ObjectText replacedText replaced ∧ Json.ObjectText replacingText replacing ∧
        Relation.EqvGen Harmless replaced replacing ∧ parse replacedText = parse replacingText) ∧
      (Gives (effective replaced) (parsed { cpu := "arm64" }) ∧
        parse replacedText = .ok (parsed { cpu := "arm64" })) ∧
      (Json.ObjectText halvedText halved ∧
        parse halvedText = .ok { parsed {} with cpu := [.half 0xd800] }) ∧
      (Json.ObjectText misfitsText misfits ∧ IsFirstOffender (effective misfits) "ios_cpu" .name ∧
        parse misfitsText = .error (.malformed (.notName "ios_cpu" (.ofString "")))) ∧
      ¬ Form.boolean.Accepts (.int 1) := by
  have spelled (s : String) := Json.spellsText_written (Json.settled_ofString s)
  have yes := Json.Means.word (w := ("true".toList, .bool true)) (by simp [Json.words])
  have null := Json.Means.word (w := ("null".toList, .null)) (by simp [Json.words])
  have last := Json.Means.lastMember (.member (spelled "ios_cpu") Json.blank_nil Json.blank_nil
    (.text (spelled "arm64"))) Json.blank_nil
  have text : Json.ObjectText replacedText replaced :=
    ⟨['\n'], _, [], rfl, by simp [Json.Blank, Json.isBlank], .some Json.blank_nil
      (.moreMembers (.member (spelled "ios_cpu") Json.blank_nil Json.blank_nil null)
        Json.blank_nil Json.blank_nil (.moreMembers
          (.member (spelled "x") Json.blank_nil Json.blank_space yes)
          Json.blank_nil Json.blank_nil last)), Json.blank_nil⟩
  have text' : Json.ObjectText replacingText replacing :=
    ⟨[], _, [], rfl, Json.blank_nil, .some Json.blank_nil last, Json.blank_nil⟩
  have misfitting : Json.ObjectText misfitsText misfits :=
    ⟨[], _, [], rfl, Json.blank_nil, .some Json.blank_nil
      (.moreMembers (.member (spelled "run_memleaks") Json.blank_nil Json.blank_nil null)
        Json.blank_nil Json.blank_nil (.lastMember (.member (spelled "ios_cpu") Json.blank_nil
          Json.blank_nil (.text (spelled ""))) Json.blank_nil)), Json.blank_nil⟩
  have changes : Relation.EqvGen Harmless replaced replacing := by
    have other : ∀ k ∈ checkedKeys, Point.ofString k.1 ≠ Point.ofString "x" := by decide
    have first := @Harmless.earlier [] replacing (Point.ofString "ios_cpu", .null) (by decide)
    have second := @Harmless.unknown [(Point.ofString "ios_cpu", .null)] replacing
      (Point.ofString "x", .bool true) other
    exact ((Relation.EqvGen.rel _ _ first).trans _ _ _ (.rel _ _ second)).symm
  have half : Json.Settled [.half 0xd800] :=
    ⟨fun code h => by cases List.mem_singleton.mp h; decide, rfl⟩
  have halving : Json.ObjectText halvedText halved :=
    ⟨[], _, [], rfl, Json.blank_nil, .some Json.blank_nil (.lastMember (.member (spelled "ios_cpu")
      Json.blank_nil Json.blank_nil (.text (Json.spellsText_written half))) Json.blank_nil),
      Json.blank_nil⟩
  have gives : Gives (effective replaced) (parsed { cpu := "arm64" }) :=
    ⟨⟨rfl, by decide⟩, ⟨rfl, by decide⟩, ⟨rfl, by decide⟩, rfl, ⟨rfl, by decide⟩, rfl, rfl⟩
  have gives_half : Gives (effective halved) { parsed {} with cpu := [.half 0xd800] } :=
    ⟨⟨rfl, by decide⟩, ⟨rfl, by decide⟩, ⟨rfl, by decide⟩, rfl, ⟨rfl, by decide⟩, rfl, rfl⟩
  have offender : IsFirstOffender (effective misfits) "ios_cpu" .name := by
    refine ⟨checkedKeys.take 1, checkedKeys.drop 2, rfl, ?_, by decide⟩
    exact List.forall_mem_singleton.mpr ⟨[], rfl, List.not_mem_nil⟩
  obtain ⟨-, read, -, rejected⟩ := parse_effective replacedText
  obtain ⟨-, given, -, alike⟩ := read replaced text
  obtain ⟨-, refused, -⟩ := parse_effective misfitsText
  obtain ⟨-, kept, -⟩ := parse_effective halvedText
  exact ⟨⟨text, text', changes, alike _ _ text' (.inr (.inr (.inr changes)))⟩,
    ⟨gives, (given _).mpr gives⟩,
    ⟨halving, ((kept halved halving).2.1 _).mpr gives_half⟩,
    ⟨misfitting, offender, ((refused misfits misfitting).2.2.1 _).mpr ⟨_, _, offender, rfl⟩⟩,
    rejected _ _ (.inr (.inl ⟨1, rfl⟩))⟩

end TargetAssembly.Configuration
