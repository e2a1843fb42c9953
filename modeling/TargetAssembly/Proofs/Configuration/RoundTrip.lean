import TargetAssembly.Proofs.Configuration.Members
import TargetAssembly.Proofs.Json.RoundTrip
import TargetAssembly.Proofs.Json.Taken

/-!
# Configurations are read as they were written

A configuration comes back from its text exactly if no name in it is empty; otherwise reading fails
at the first member with an empty name.  Reading never gives a configuration with an empty name, so
what was read once can be written and read again, also if its names have lone halves of surrogate
pairs: where the other half followed, the reader has joined the two.
-/

namespace TargetAssembly.Configuration

open Text (Point)

/-! ## Empty names -/

/-- No name of a configuration is empty. -/
structure Named (c : Configuration) : Prop where
  multiCpus : "" ∉ c.multiCpus
  cpu : c.cpu ≠ ""
  minimumOs : c.minimumOs ≠ ""
  workspaceName : c.workspaceName ≠ ""

/-- The first member with an empty name, in the order in which members are read. -/
def emptyMember? (c : Configuration) : Option String :=
  if "" ∈ c.multiCpus then some "ios_multi_cpus"
  else if c.cpu = "" then some "ios_cpu"
  else if c.minimumOs = "" then some "minimum_os"
  else if c.workspaceName = "" then some "workspace_name"
  else none

namespace Parsed

/-- No name of a configuration that was read is empty. -/
structure Named (p : Parsed) : Prop where
  multiCpus : [] ∉ p.multiCpus
  cpu : p.cpu ≠ []
  minimumOs : p.minimumOs ≠ []
  workspaceName : p.workspaceName ≠ []

/-- The names of a configuration are as the reader leaves them. -/
structure Settled (p : Parsed) : Prop where
  multiCpus : ∀ s ∈ p.multiCpus, Json.Settled s
  cpu : Json.Settled p.cpu
  minimumOs : Json.Settled p.minimumOs
  workspaceName : Json.Settled p.workspaceName

end Parsed

lemma mem_multiCpus_parsed_iff (c : Configuration) :
    [] ∈ c.parsed.multiCpus ↔ "" ∈ c.multiCpus := by
  simp [parsed, ofString_eq_nil_iff]

lemma Named.parsed {c : Configuration} (named : c.Named) : c.parsed.Named :=
  ⟨fun empty => named.multiCpus ((mem_multiCpus_parsed_iff c).mp empty),
    fun empty => named.cpu (ofString_eq_nil_iff.mp empty),
    fun empty => named.minimumOs (ofString_eq_nil_iff.mp empty),
    fun empty => named.workspaceName (ofString_eq_nil_iff.mp empty)⟩

lemma settled_parsed (c : Configuration) : c.parsed.Settled := by
  refine ⟨fun s hs => ?_, Json.settled_ofString c.cpu, Json.settled_ofString c.minimumOs,
    Json.settled_ofString c.workspaceName⟩
  obtain ⟨name, -, rfl⟩ := List.mem_map.mp hs
  exact Json.settled_ofString name

/-! ## The members of a written configuration -/

namespace Parsed

/-- The members of a configuration, under their names. -/
def entries (p : Parsed) : List (String × Json) :=
  [("coverage_enabled", .bool p.coverageEnabled), ("ios_cpu", .text p.cpu),
    ("ios_multi_cpus", .list (p.multiCpus.map .text)),
    ("legacy_external_runfiles", .bool p.legacyExternalRunfiles),
    ("minimum_os", .text p.minimumOs), ("run_memleaks", .bool p.runMemleaks),
    ("workspace_name", .text p.workspaceName)]

/-- The members of a configuration as they are written. -/
def members (p : Parsed) : Members := p.entries.map fun e => (Point.ofString e.1, e.2)

lemma toJson_eq (p : Parsed) : p.toJson = .object p.members := rfl

lemma member?_members (p : Parsed) (key : String) :
    Json.member? key p.members = p.entries.lookup key := by
  have found := Keyed.lookup_map Point.ofString_injective id p.entries key
  rwa [Option.map_id] at found

lemma readable_names {names : List (List Point)} (settled : ∀ s ∈ names, Json.Settled s) :
    Json.Readable (.list (names.map .text)) := by
  refine .list fun v hv => ?_
  obtain ⟨s, hs, rfl⟩ := List.mem_map.mp hv
  exact .text (settled s hs)

lemma nodup_members (p : Parsed) : (Keyed.keys p.members).Nodup := by
  have names : Keyed.keys p.members = (Keyed.keys p.entries).map Point.ofString := by
    rw [Keyed.keys, Keyed.keys, members, List.map_map, List.map_map]
    rfl
  have distinct : (Keyed.keys p.entries).Nodup := by
    show ["coverage_enabled", "ios_cpu", "ios_multi_cpus", "legacy_external_runfiles",
      "minimum_os", "run_memleaks", "workspace_name"].Nodup
    decide
  exact names ▸ distinct.map Point.ofString_injective

variable {p : Parsed}

lemma Settled.readable_entries (settled : p.Settled) : ∀ e ∈ p.entries, Json.Readable e.2 := by
  simp only [entries, List.forall_mem_cons, readable_names settled.multiCpus,
    Json.Readable.text settled.cpu, Json.Readable.text settled.minimumOs,
    Json.Readable.text settled.workspaceName, Json.Readable.bool, List.not_mem_nil, false_implies,
    implies_true, and_self]

lemma Settled.readable_toJson (settled : p.Settled) : Json.Readable p.toJson := by
  rw [toJson_eq]
  refine .object p.nodup_members ?_ ?_
  · intro m hm
    obtain ⟨e, -, rfl⟩ := List.mem_map.mp hm
    exact Json.settled_ofString e.1
  · intro m hm
    obtain ⟨e, he, rfl⟩ := List.mem_map.mp hm
    exact settled.readable_entries e he

lemma Settled.read_written (settled : p.Settled) : Json.read p.written = .ok p.toJson :=
  Json.read_indented settled.readable_toJson 0 (by simp [Json.Blank, Json.isBlank])

/-! ## Reading the members back -/

lemma namesAt_members (p : Parsed) :
    namesAt "ios_multi_cpus" p.members =
      if [] ∈ p.multiCpus then
        .error (.notNames "ios_multi_cpus" (.list (p.multiCpus.map .text)))
      else .ok p.multiCpus :=
  namesAt_texts (p.member?_members _)

lemma nameAt_members {key : String} {s : List Point} (h : p.entries.lookup key = some (.text s))
    (fallback : List Point) :
    nameAt key fallback p.members = if s = [] then .error (.notName key (.text s)) else .ok s :=
  nameAt_text fallback ((p.member?_members key).trans h)

lemma booleanAt_members {key : String} {b : Bool} (h : p.entries.lookup key = some (.bool b))
    (fallback : Bool) : booleanAt key fallback p.members = .ok b :=
  booleanAt_bool fallback ((p.member?_members key).trans h)

/-- Members without an empty name give the configuration back. -/
lemma Named.ofMembers_members (named : p.Named) : ofMembers p.members = .ok p := by
  rw [ofMembers_eq_ok_iff]
  refine ⟨?_, ?_, ?_, booleanAt_members rfl _, ?_, booleanAt_members rfl _,
    booleanAt_members rfl _⟩
  · rw [namesAt_members, if_neg named.multiCpus]
  · rw [nameAt_members (s := p.cpu) rfl, if_neg named.cpu]
  · rw [nameAt_members (s := p.minimumOs) rfl, if_neg named.minimumOs]
  · rw [nameAt_members (s := p.workspaceName) rfl, if_neg named.workspaceName]

lemma flaw?_nameAt_members {key : String} {s : List Point}
    (h : p.entries.lookup key = some (.text s)) (fallback : List Point) :
    flaw? (nameAt key fallback p.members) =
      if s = [] then some (.notName key (.text s)) else none := by
  rw [nameAt_members h, flaw?_ite]

lemma flaw?_booleanAt_members {key : String} {b : Bool}
    (h : p.entries.lookup key = some (.bool b)) (fallback : Bool) :
    flaw? (booleanAt key fallback p.members) = none := by
  rw [booleanAt_members h, flaw?]

/-- The first empty name is what is wrong with the members of a configuration. -/
lemma flaw?_members (p : Parsed) :
    flaw? (ofMembers p.members) =
      if [] ∈ p.multiCpus then
        some (.notNames "ios_multi_cpus" (.list (p.multiCpus.map .text)))
      else if p.cpu = [] then some (.notName "ios_cpu" (.text p.cpu))
      else if p.minimumOs = [] then some (.notName "minimum_os" (.text p.minimumOs))
      else if p.workspaceName = [] then some (.notName "workspace_name" (.text p.workspaceName))
      else none := by
  have first (q : Prop) [Decidable q] (what : Malformed) (o : Option Malformed) :
      (if q then some what else none).or o = if q then some what else o := by
    by_cases h : q <;> simp [h]
  rw [flaw?_ofMembers, namesAt_members, flaw?_ite, flaw?_nameAt_members (s := p.cpu) rfl,
    flaw?_nameAt_members (s := p.minimumOs) rfl, flaw?_nameAt_members (s := p.workspaceName) rfl,
    flaw?_booleanAt_members (b := p.runMemleaks) rfl,
    flaw?_booleanAt_members (b := p.legacyExternalRunfiles) rfl,
    flaw?_booleanAt_members (b := p.coverageEnabled) rfl]
  simp only [first, Option.none_or]

end Parsed

/-- The first member with an empty name is the one that is reported. -/
lemma ofMembers_members_error {c : Configuration} (unnamed : ¬ c.Named) :
    ∃ key what, c.emptyMember? = some key ∧ ofMembers c.parsed.members = .error what ∧
      what.problem.kind = .configuration ∧ what.problem.context.lookup "key" = some key := by
  have flaw := c.parsed.flaw?_members
  have cpu_iff : c.parsed.cpu = [] ↔ c.cpu = "" := ofString_eq_nil_iff
  have minimumOs_iff : c.parsed.minimumOs = [] ↔ c.minimumOs = "" := ofString_eq_nil_iff
  have workspaceName_iff : c.parsed.workspaceName = [] ↔ c.workspaceName = "" :=
    ofString_eq_nil_iff
  simp only [mem_multiCpus_parsed_iff, cpu_iff, minimumOs_iff, workspaceName_iff] at flaw
  rw [emptyMember?]
  by_cases multiCpus : "" ∈ c.multiCpus
  · rw [if_pos multiCpus] at flaw ⊢
    exact ⟨_, _, rfl, flaw?_eq_some_iff.mp flaw, rfl, rfl⟩
  rw [if_neg multiCpus] at flaw ⊢
  by_cases cpu : c.cpu = ""
  · rw [if_pos cpu] at flaw ⊢
    exact ⟨_, _, rfl, flaw?_eq_some_iff.mp flaw, rfl, rfl⟩
  rw [if_neg cpu] at flaw ⊢
  by_cases minimumOs : c.minimumOs = ""
  · rw [if_pos minimumOs] at flaw ⊢
    exact ⟨_, _, rfl, flaw?_eq_some_iff.mp flaw, rfl, rfl⟩
  rw [if_neg minimumOs] at flaw ⊢
  by_cases workspaceName : c.workspaceName = ""
  · rw [if_pos workspaceName] at flaw ⊢
    exact ⟨_, _, rfl, flaw?_eq_some_iff.mp flaw, rfl, rfl⟩
  exact absurd ⟨multiCpus, cpu, minimumOs, workspaceName⟩ unnamed

/-! ## Reading a written configuration -/

lemma parse_of_ok {raw : List Char} {members : Members} {p : Parsed}
    (text : Json.read raw = .ok (.object members)) (given : ofMembers members = .ok p) :
    parse raw = .ok p := by
  simp only [parse, text, ofJson, given]

lemma parse_of_error {raw : List Char} {members : Members} {what : Malformed}
    (text : Json.read raw = .ok (.object members)) (wrong : ofMembers members = .error what) :
    parse raw = .error (.malformed what) := by
  simp only [parse, text, ofJson, wrong]

/-- What is read as a configuration is an object with acceptable members. -/
lemma exists_members_of_parse {raw : List Char} {p : Parsed} (h : parse raw = .ok p) :
    ∃ members, Json.read raw = .ok (.object members) ∧ ofMembers members = .ok p := by
  unfold parse at h
  cases text : Json.read raw with
  | error e => cases e <;> simp [text] at h
  | ok value =>
    cases value with
    | object members =>
      cases given : ofMembers members with
      | error what => simp [text, ofJson, given] at h
      | ok p' =>
        simp only [text, ofJson, given, Except.ok.injEq] at h
        exact ⟨members, rfl, h ▸ given⟩
    | _ => simp [text, ofJson] at h

lemma named_of_parse {raw : List Char} {p : Parsed} (h : parse raw = .ok p) : p.Named := by
  obtain ⟨members, -, given⟩ := exists_members_of_parse h
  obtain ⟨multiCpus, cpu, minimumOs, -, workspaceName, -⟩ := ofMembers_eq_ok_iff.mp given
  exact ⟨(listsNames_of_namesAt multiCpus).2, (isName_of_nameAt (by decide) cpu).2,
    (isName_of_nameAt (by decide) minimumOs).2, (isName_of_nameAt (by decide) workspaceName).2⟩

section Settled

variable {members : Members} (each : ∀ m ∈ members, m.2.SettledTexts)

include each

/-- The value of a member that was read has settled texts if the default has. -/
lemma settledTexts_member?_getD (key : String) {fallback : Json}
    (default : fallback.SettledTexts) :
    ((Json.member? key members).getD fallback).SettledTexts := by
  cases found : Json.member? key members with
  | none => exact default
  | some v => exact each _ (Keyed.mem_of_lookup found)

lemma settled_of_nameAt {key : String} {fallback s : List Point} (nonempty : fallback ≠ [])
    (default : Json.Settled fallback) (h : nameAt key fallback members = .ok s) :
    Json.Settled s := by
  have value := settledTexts_member?_getD each key (.text default)
  rw [(isName_of_nameAt nonempty h).1] at value
  cases value with
  | text settled => exact settled

lemma settled_of_namesAt {key : String} {names : List (List Point)}
    (h : namesAt key members = .ok names) : ∀ s ∈ names, Json.Settled s := by
  have value := settledTexts_member?_getD each key
    (.list fun _ h => absurd h List.not_mem_nil)
  rw [(listsNames_of_namesAt h).1] at value
  intro s hs
  cases value with
  | list items =>
    cases items _ (List.mem_map_of_mem hs) with
    | text settled => exact settled

end Settled

lemma settled_of_parse {raw : List Char} {p : Parsed} (h : parse raw = .ok p) : p.Settled := by
  obtain ⟨members, text, given⟩ := exists_members_of_parse h
  obtain ⟨multiCpus, cpu, minimumOs, -, workspaceName, -⟩ := ofMembers_eq_ok_iff.mp given
  cases Json.settledTexts_of_read text with
  | object each =>
    exact ⟨settled_of_namesAt each multiCpus,
      settled_of_nameAt each (by decide) (Json.settled_ofString _) cpu,
      settled_of_nameAt each (by decide) (Json.settled_ofString _) minimumOs,
      settled_of_nameAt each (by decide) (Json.settled_ofString _) workspaceName⟩

lemma parse_written_of_named {p : Parsed} (settled : p.Settled) (named : p.Named) :
    parse p.written = .ok p :=
  parse_of_ok settled.read_written named.ofMembers_members

/-- A configuration comes back from its text if no name in it is empty, else the first member with
an empty name is reported.  What is read from any text has no empty names, so writing it and
reading it again changes nothing. -/
theorem parse_written :
    (∀ c : Configuration, c.Named → parse c.written = .ok c.parsed) ∧
      (∀ c : Configuration, ¬ c.Named → ∃ key what, c.emptyMember? = some key ∧
        parse c.written = .error (.malformed what) ∧ what.problem.kind = .configuration ∧
          what.problem.context.lookup "key" = some key) ∧
      ∀ (raw : List Char) (p : Parsed), parse raw = .ok p →
        p.Named ∧ parse p.written = parse raw := by
  refine ⟨fun c named => parse_written_of_named c.settled_parsed named.parsed, ?_, ?_⟩
  · intro c unnamed
    obtain ⟨key, what, first, wrong, kind, context⟩ := ofMembers_members_error unnamed
    exact ⟨key, what, first, parse_of_error c.settled_parsed.read_written wrong, kind, context⟩
  · intro raw p h
    have named := named_of_parse h
    exact ⟨named, (parse_written_of_named (settled_of_parse h) named).trans h.symm⟩

/-- Names with quotes, backslashes, controls, a line separator and characters beyond the first
65536. -/
def unusual : Configuration :=
  { multiCpus := ["\"arm64\"", "\\\x00\x1f\x7f"], cpu := "\u2028", minimumOs := "\n\t😀",
    workspaceName := "𝄞" }

/-- Two empty names, of which the least version is read first. -/
def nameless : Configuration := { minimumOs := "", workspaceName := "" }

/-- Unusual names come back, an empty name is reported, and an empty object gives a configuration
that can be written and read again. -/
theorem parse_written_unusual :
    (unusual.Named ∧ parse unusual.written = .ok unusual.parsed) ∧
      (¬ nameless.Named ∧ nameless.emptyMember? = some "minimum_os" ∧
        ∃ key what, nameless.emptyMember? = some key ∧
        parse nameless.written = .error (.malformed what) ∧ what.problem.kind = .configuration ∧
          what.problem.context.lookup "key" = some key) ∧
      parse ['\x7b', '\x7d'] = .ok (parsed {}) ∧
        parse (parsed {}).written = parse ['\x7b', '\x7d'] := by
  have named : unusual.Named := ⟨by decide, by decide, by decide, by decide⟩
  have unnamed : ¬ nameless.Named := fun named => named.minimumOs rfl
  have empty : parse ['\x7b', '\x7d'] = .ok (parsed {}) := rfl
  exact ⟨⟨named, parse_written.1 unusual named⟩,
    ⟨unnamed, by decide, parse_written.2.1 nameless unnamed⟩,
    empty, (parse_written.2.2 _ _ empty).2⟩

end TargetAssembly.Configuration
