import TargetAssembly.Log
import TargetAssembly.Proofs.FileTree.Writing
import TargetAssembly.Proofs.Json.RoundTrip
import TargetAssembly.Proofs.Text.Utf8
import TargetAssembly.Proofs.Value.ToJson
import TargetAssembly.Untyped.Record

/-!
# Logs are read as they were written

A log whose details JSON can hold is written as a text of ASCII characters with one line for each
entry, whatever characters the texts in it have: a line feed in a text is escaped, so lines end only
where entries do.  Each line is read as an object that shows the parts of its entry.  The lines of
several entries are found by induction on the entries, and cutting the text at its line feeds gives
the lines back since none of them has a line feed.
-/

namespace TargetAssembly

open Text
open Json (Shows)

/-! ## Lines of a text -/

namespace Text

lemma pieces_append_cons {sep : Char} {line : List Char} (h : sep ∉ line) (rest : List Char) :
    pieces sep (line ++ sep :: rest) = line :: pieces sep rest := by
  induction line with
  | nil => rw [List.nil_append, pieces, if_pos rfl]
  | cons c line ih =>
    rw [List.mem_cons, not_or] at h
    rw [List.cons_append, pieces, if_neg (Ne.symm h.1), ih h.2]

/-- Lines with a line feed behind each are what the text is cut into, with nothing behind the last
line feed. -/
lemma pieces_separated {lines : List (List Char)} (some_line : lines ≠ [])
    (each : ∀ line ∈ lines, '\n' ∉ line) :
    pieces '\n' (Json.separated ['\n'] lines ++ ['\n']) = lines ++ [[]] := by
  induction lines with
  | nil => exact absurd rfl some_line
  | cons line lines ih =>
    rw [List.forall_mem_cons] at each
    cases lines with
    | nil => exact pieces_append_cons each.1 []
    | cons next lines =>
      have text : Json.separated ['\n'] (line :: next :: lines) ++ ['\n'] =
          line ++ '\n' :: (Json.separated ['\n'] (next :: lines) ++ ['\n']) := by
        rw [Json.separated, List.append_assoc, List.append_assoc]
        · rfl
        · exact nofun
      rw [text, pieces_append_cons each.1, ih (List.cons_ne_nil _ _) each.2]
      rfl

end Text

/-! ## One entry -/

namespace LogEntry

/-- The details of an entry are made of what JSON has. -/
def Exportable (r : LogEntry) : Prop := (Value.mapping false r.extra).Exportable

/-- A line says what an entry is: it is read as an object that shows the parts of the entry, with
details just if the entry has any. -/
def IsSaidBy (r : LogEntry) (line : List Char) : Prop :=
  ∃ members, Json.read line = .ok (.object members) ∧
    Shows (.object members) (.ofNamed r.parts) ∧
      ((Json.member? "extra" members).isSome ↔ r.extra ≠ [])

lemma keys_parts (r : LogEntry) :
    Keyed.keys r.parts = ["level", "operation", "target", "stage", "message"] ++
      if r.extra.isEmpty then [] else ["extra"] := by
  rw [parts]
  split_ifs <;> rfl

lemma exportable_parts {r : LogEntry} (exportable : r.Exportable) :
    (Value.ofNamed r.parts).Exportable := by
  have optional (s? : Option String) : (Value.ofText? s?).Exportable := by
    cases s? with
    | none => exact .null
    | some s => exact .text s
  refine .mapping ?_ ?_
  · rw [keys_parts]
    split_ifs <;> decide
  · rw [parts, List.forall_mem_append]
    refine ⟨?_, ?_⟩
    · simp only [List.forall_mem_cons]
      exact ⟨.text _, .text _, optional _, optional _, .text _, nofun⟩
    · split_ifs
      · exact nofun
      · exact List.forall_mem_singleton.mpr exportable

/-- The line of an entry has visible characters alone and says what the entry is. -/
lemma exists_line {r : LogEntry} (exportable : r.Exportable) :
    ∃ line, lineOf r.parts = .ok line ∧ Json.Visible line ∧ r.IsSaidBy line := by
  obtain ⟨j, written, readable, shown⟩ := Value.exists_toJson (exportable_parts exportable)
  obtain ⟨members, rfl⟩ := shown.exists_members
  refine ⟨_, ?_, Json.visible_inline readable, members, ?_, shown, ?_⟩
  · rw [lineOf, written]
    rfl
  · have back : Json.read ((Json.object members).inline ++ []) = .ok (.object members) :=
      Json.read_inline readable nofun
    rwa [List.append_nil] at back
  · rw [shown.isSome_member?_iff, keys_parts]
    cases r.extra <;> simp

end LogEntry

/-! ## All entries -/

lemma exists_lines {entries : List LogEntry} (each : ∀ r ∈ entries, r.Exportable) :
    ∃ lines, (entries.map (·.parts)).mapM LogEntry.lineOf = .ok lines ∧
      (∀ line ∈ lines, Json.Visible line) ∧ List.Forall₂ LogEntry.IsSaidBy entries lines := by
  induction entries with
  | nil => exact ⟨[], rfl, nofun, .nil⟩
  | cons r entries ih =>
    rw [List.forall_mem_cons] at each
    obtain ⟨line, written, visible, said⟩ := LogEntry.exists_line each.1
    obtain ⟨lines, writtenRest, visibleRest, saidRest⟩ := ih each.2
    refine ⟨line :: lines, ?_, List.forall_mem_cons.mpr ⟨visible, visibleRest⟩, .cons said saidRest⟩
    rw [List.map_cons, List.mapM_cons, written, writtenRest]
    rfl

namespace Log

variable {l : Log}

/-- The text of a log is of ASCII and is cut at its line feeds into lines that say what the entries
are. -/
lemma exists_written (some_entry : l.entries ≠ []) (each : ∀ r ∈ l.entries, r.Exportable) :
    ∃ text lines, l.written = .ok text ∧ (∀ c ∈ text, c.toNat < 0x80) ∧
      Text.pieces '\n' text = lines ++ [[]] ∧
        List.Forall₂ LogEntry.IsSaidBy l.entries lines := by
  obtain ⟨lines, written, visible, said⟩ := exists_lines each
  refine ⟨Json.separated ['\n'] lines ++ ['\n'], lines, ?_, ?_, ?_, said⟩
  · rw [Log.written, textOf, written]
    rfl
  · have between : Json.Clean (Json.separated ['\n'] lines) :=
      Json.clean_separated (by decide) fun line mem => (visible line mem).clean
    exact fun c => (between.append (by decide)).lt
  · have some_line : lines ≠ [] := by
      rintro rfl
      exact some_entry (List.forall₂_nil_right_iff.mp said)
    exact Text.pieces_separated some_line fun line mem => (visible line mem).lineFeed_not_mem

/-- The log that runs writes what the log whose entries have types writes. -/
lemma save_ofTyped (l : Log) (t : FileTree) (p : FilePath) :
    (Untyped.Log.ofTyped l).save t p = l.save t p := by
  have typed : (Untyped.Log.ofTyped l).typed? = some l := by
    rw [Untyped.Log.typed?, Untyped.Log.ofTyped,
      Value.mapM_map_some LogEntry.ofValue?_toValue]
    rfl
  rw [Untyped.Log.save, typed]

/-- A log with entries whose details JSON can hold is written as some bytes of ASCII, to whatever
path and in whatever tree, and nothing but the tree can make that fail.  The bytes are a text that
its line feeds cut into lines, one for each entry in order and with nothing behind the last line
feed, and each line says what its entry is.  After the log was written, the bytes are what is read
from its path. -/
theorem save_readable (some_entry : l.entries ≠ []) (each : ∀ r ∈ l.entries, r.Exportable) :
    ∃ bytes text lines, (∀ b ∈ bytes, b < 0x80) ∧ Utf8.decode bytes = .ok text ∧
      Text.pieces '\n' text = lines ++ [[]] ∧
      List.Forall₂ LogEntry.IsSaidBy l.entries lines ∧
      ∀ (t : FileTree) (p : FilePath),
        (Untyped.Log.ofTyped l).save t p = l.save t p ∧
        (l.save t p = let (u, result) := t.writeDeep p bytes
          (u, result.mapError .file)) ∧
        ∀ u, l.save t p = (u, .ok ()) → u.read p = .ok bytes := by
  obtain ⟨text, lines, written, ascii, cut, said⟩ := exists_written some_entry each
  refine ⟨Utf8.encode text, text, lines, ?_, Utf8.decode_encode text, cut, said, ?_⟩
  · intro b hb
    rw [Utf8.encode_of_lt ascii] at hb
    obtain ⟨c, hc, rfl⟩ := List.mem_map.mp hb
    have small := ascii c hc
    rw [UInt8.lt_iff_toNat_lt, Utf8.toNat_ofNat (by omega)]
    exact small
  · intro t p
    have saved : l.save t p = let (u, result) := t.writeDeep p (Utf8.encode text)
        (u, result.mapError .file) := by
      rw [save, written, FileTree.writeText_ok]
    refine ⟨save_ofTyped l t p, saved, ?_⟩
    intro u done
    cases deep : t.writeDeep p (Utf8.encode text) with
    | mk v result =>
      rw [saved, deep] at done
      cases result with
      | error e => cases done
      | ok _ =>
        cases done
        obtain ⟨m, found, -, -⟩ := FileTree.writeDeep_ok deep
        exact FileTree.read_of_target found

/-- Two entries: one with line feeds, quotes and line separators in its message and in its details,
which nest, and one without a target, a stage and details. -/
def unusual : Log :=
  ⟨[{ level := .error
      operation := "assemble\r\n"
      target := some "//app:\"t\""
      stage := some "\u2028"
      message := "first line\nsecond line 😀"
      extra := [(.text "z\n", .tuple [.list [.int (-12), .bool true], .null, .text "\u2029"]),
        (.text "", .tuple [])] },
    { level := .info, operation := "", target := none, stage := none, message := "\n" }]⟩

lemma exportable_unusual : ∀ r ∈ unusual.entries, r.Exportable := by
  have numbers : (Value.list [.int (-12), .bool true]).Exportable := by
    refine .list (List.forall_mem_cons.mpr ⟨.int (by decide), ?_⟩)
    exact List.forall_mem_singleton.mpr (.bool true)
  have nested :
      (Value.tuple [.list [.int (-12), .bool true], .null, .text "\u2029"]).Exportable := by
    refine .tuple (List.forall_mem_cons.mpr ⟨numbers, List.forall_mem_cons.mpr ⟨.null, ?_⟩⟩)
    exact List.forall_mem_singleton.mpr (.text _)
  have details : (Value.ofNamed [("z\n", .tuple [.list [.int (-12), .bool true], .null,
      .text "\u2029"]), ("", .tuple [])]).Exportable := by
    refine .mapping (by decide) (List.forall_mem_cons.mpr ⟨nested, ?_⟩)
    exact List.forall_mem_singleton.mpr (.tuple nofun)
  have none_at_all : (Value.ofNamed []).Exportable := .mapping List.nodup_nil nofun
  exact List.forall_mem_cons.mpr ⟨details, List.forall_mem_singleton.mpr none_at_all⟩

/-- Two unusual entries are written as two lines, to a directory that has to be made. -/
theorem save_readable_unusual :
    (unusual.entries ≠ [] ∧ ∀ r ∈ unusual.entries, r.Exportable) ∧
      ∃ bytes text first second, (∀ b ∈ bytes, b < 0x80) ∧ Utf8.decode bytes = .ok text ∧
        Text.pieces '\n' text = [first, second, []] ∧
        List.Forall₂ LogEntry.IsSaidBy unusual.entries [first, second] ∧
        (unusual.save ⟨[]⟩ (.ofText "logs/assemble.jsonl")).2 = .ok () ∧
          (unusual.save ⟨[]⟩ (.ofText "logs/assemble.jsonl")).1.read
            (.ofText "logs/assemble.jsonl") = .ok bytes := by
  have some_entry : unusual.entries ≠ [] := List.cons_ne_nil _ _
  obtain ⟨bytes, text, lines, ascii, decoded, cut, said, saved⟩ :=
    save_readable some_entry exportable_unusual
  obtain ⟨first, second, rfl⟩ : ∃ first second, lines = [first, second] :=
    List.length_eq_two.mp said.length_eq.symm
  obtain ⟨-, written, back⟩ := saved ⟨[]⟩ (.ofText "logs/assemble.jsonl")
  have done : (unusual.save ⟨[]⟩ (.ofText "logs/assemble.jsonl")).2 = .ok () := by
    rw [written]
    rfl
  exact ⟨⟨some_entry, exportable_unusual⟩, bytes, text, first, second, ascii, decoded, cut, said,
    done, back _ (Prod.ext rfl done)⟩

end Log

end TargetAssembly
