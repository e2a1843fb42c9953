import TargetAssembly.Configuration.Text
import TargetAssembly.Proofs.Json.Overlong
import TargetAssembly.Proofs.Text.Utf8

/-!
# What reading a configuration comes to

Reading a text or a file comes to a configuration, or to a problem with the configuration that is
reported as such.  There are two exceptions: a file whose bytes are no UTF-8, and a text with a
whole number that has too many digits, under whatever name it stands.  `answered_exact` says that
there are no others.
-/

namespace TargetAssembly.Configuration

open Text

/-! ## Answers -/

/-- The problem with the configuration that an error is, if it is one. -/
def ParseError.problem? : ParseError → Option Problem
  | malformed what => some what.problem
  | tooManyDigits _ => none

/-- The same for errors of reading a file. -/
def LoadError.problem? : LoadError → Option Problem
  | parse e => e.problem?
  | encoding _ => none
  | file _ => none

/-- Reading comes to a configuration, or to a problem with it that is reported as such. -/
def Answered {ε : Type} (problem? : ε → Option Problem) (r : Except ε Parsed) : Prop :=
  (∃ p, r = .ok p) ∨
    ∃ e problem, r = .error e ∧ problem? e = some problem ∧ problem.kind = .configuration

section Answered

variable {ε : Type} {problem? : ε → Option Problem}

lemma answered_ok (p : Parsed) : Answered problem? (.ok p) := .inl ⟨p, rfl⟩

lemma answered_error_iff {e : ε} : Answered problem? (.error e) ↔
    ∃ problem, problem? e = some problem ∧ problem.kind = .configuration := by
  constructor
  · rintro (⟨c, ⟨⟩⟩ | ⟨e', problem, ⟨⟩, same, kind⟩)
    exact ⟨problem, same, kind⟩
  · rintro ⟨problem, same, kind⟩
    exact .inr ⟨e, problem, rfl, same, kind⟩

lemma answered_of_problem {e : ε} {what : Malformed} (h : problem? e = some what.problem) :
    Answered problem? (.error e) :=
  answered_error_iff.mpr ⟨what.problem, h, by cases what <;> rfl⟩

lemma not_answered {e : ε} (h : problem? e = none) : ¬ Answered problem? (.error e) := by
  rw [answered_error_iff]
  rintro ⟨problem, same, -⟩
  cases h.symm.trans same

end Answered

/-! ## Texts -/

/-- Reading a text is answered, or stops at a number with too many digits. -/
lemma parse_cases (raw : List Char) : Answered ParseError.problem? (parse raw) ∨
    ∃ count, parse raw = .error (.tooManyDigits count) ∧
      Json.read raw = .error (.tooManyDigits count) := by
  unfold parse
  cases read : Json.read raw with
  | ok value =>
    left
    dsimp only
    cases ofJson value with
    | ok c => exact answered_ok c
    | error what => exact answered_of_problem rfl
  | error e =>
    cases e with
    | malformed fault position => exact .inl (answered_of_problem rfl)
    | tooManyDigits count => exact .inr ⟨count, rfl, rfl⟩

lemma parse_of_tooManyDigits {raw : List Char} {count : Nat}
    (h : Json.read raw = .error (.tooManyDigits count)) :
    parse raw = .error (.tooManyDigits count) := by
  rw [parse, h]

lemma answered_parse_iff (raw : List Char) :
    Answered ParseError.problem? (parse raw) ↔ ∀ count, ¬ Json.Overlong count raw := by
  obtain answered | ⟨count, stopped, read⟩ := parse_cases raw
  · refine iff_of_true answered fun count long => ?_
    rw [parse_of_tooManyDigits (Json.read_eq_tooManyDigits_iff.mpr long)] at answered
    exact not_answered rfl answered
  · refine iff_of_false ?_ fun none => none count (Json.read_eq_tooManyDigits_iff.mp read)
    rw [stopped]
    exact not_answered rfl

/-! ## Files -/

lemma answered_load_of_read {t : FileTree} {p : FilePath} {cs : List Char}
    (there : t.read p = .ok (Utf8.encode cs)) :
    Answered LoadError.problem? (load t p) ↔
      Answered ParseError.problem? (parse (Utf8.lineFeeds cs)) := by
  simp only [load, there, Utf8.decode_encode]
  cases parse (Utf8.lineFeeds cs) with
  | ok c => exact iff_of_true (answered_ok c) (answered_ok c)
  | error e => rw [answered_error_iff, answered_error_iff, LoadError.problem?]

/-! ## Main result -/

/-- Reading a text comes to a configuration or to a problem with it, except if the text is overlong;
reading a file that is there does so except if its bytes are no UTF-8, or if the text that they
spell is overlong once its line ends are line feeds. -/
theorem answered_exact (raw : List Char) (t : FileTree) (p : FilePath) (bytes : List UInt8)
    (there : t.read p = .ok bytes) :
    (Answered ParseError.problem? (parse raw) ↔ ∀ count, ¬ Json.Overlong count raw) ∧
      (Answered LoadError.problem? (load t p) ↔ ∃ cs, bytes = Utf8.encode cs ∧
        ∀ count, ¬ Json.Overlong count (Utf8.lineFeeds cs)) := by
  refine ⟨answered_parse_iff raw, ?_⟩
  cases decoded : Utf8.decode bytes with
  | ok cs =>
    obtain rfl := Utf8.encode_of_decode decoded
    rw [answered_load_of_read there, answered_parse_iff]
    constructor
    · exact fun short => ⟨cs, rfl, short⟩
    · rintro ⟨ds, same, short⟩
      have other := Utf8.decode_encode ds
      rw [← same, decoded] at other
      rwa [Except.ok.inj other]
  | error flaw =>
    have failed : load t p = .error (.encoding flaw) := by
      simp only [load, there, decoded]
    rw [failed]
    refine iff_of_false (not_answered rfl) ?_
    rintro ⟨cs, rfl, -⟩
    rw [Utf8.decode_encode] at decoded
    cases decoded

/-- An object with one member of an unknown name, a number with one digit too many. -/
def longNumber : List Char :=
  ['\x7b', '\x22', 'x', '\x22', ':'] ++ (List.replicate 4301 '1' ++ ['\x7d'])

/-- A directory with one file, whose only byte starts no character. -/
def badByte : FileTree := ⟨[(["c.json"], .file [0xff])]⟩

lemma overlong_longNumber : Json.Overlong 4301 longNumber := by
  have length : (List.replicate 4301 '1').length = 4301 := List.length_replicate
  refine ⟨['\x7b', '\x22', 'x', '\x22', ':'], false, List.replicate 4301 '1', ['\x7d'], ?_, rfl,
    ?_, length⟩
  · rw [Json.chars_ofDigits]
    rfl
  · constructor
    · rw [length]
      decide
    · intro d one
      rw [List.eq_of_mem_replicate one]
      rfl
    · rw [List.head?_replicate]
      decide
    · exact Json.noDigit_cons (by decide) []
    · rfl
    · rfl

/-- Neither the long number nor the byte is answered. -/
theorem answered_exact_unanswered :
    badByte.read (.ofText "c.json") = .ok [0xff] ∧
      ¬ Answered ParseError.problem? (parse longNumber) ∧
      ¬ Answered LoadError.problem? (load badByte (.ofText "c.json")) := by
  have there : badByte.read (.ofText "c.json") = .ok [0xff] := rfl
  obtain ⟨text, file⟩ := answered_exact longNumber badByte (.ofText "c.json") [0xff] there
  refine ⟨there, fun h => text.mp h 4301 overlong_longNumber, fun h => ?_⟩
  obtain ⟨cs, same, -⟩ := file.mp h
  have decoded := Utf8.decode_encode cs
  rw [← same] at decoded
  cases decoded

/-- Neither every text nor every file that is there is answered. -/
theorem not_always_answered :
    (¬ ∀ raw, Answered ParseError.problem? (parse raw)) ∧
      ¬ ∀ (t : FileTree) (p : FilePath) (bytes : List UInt8), t.read p = .ok bytes →
        Answered LoadError.problem? (load t p) := by
  constructor
  · intro always
    exact (answered_parse_iff longNumber).mp (always longNumber) 4301 overlong_longNumber
  · intro always
    have failed : load badByte (.ofText "c.json") = .error (.encoding ⟨0, [0xff], .invalidStart⟩) :=
      rfl
    have answered := always badByte (.ofText "c.json") [0xff] rfl
    rw [failed] at answered
    exact not_answered rfl answered

end TargetAssembly.Configuration
