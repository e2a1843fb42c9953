import TargetAssembly.ArtifactSet.Basic
import TargetAssembly.Description
import TargetAssembly.Problem.Basic
import TargetAssembly.Value.Misfit

/-!
# Merging contributions

The parts of a build each contribute files, capabilities, extra values and perhaps the program to
run.  `mergeAll` merges contributions, in order, into one description.  Each kind of capability,
and the program, may come from one contribution only; at the first that is supplied again the
merge stops and names its two sources.
-/

namespace TargetAssembly

/-- What one part of a build contributes to a target. -/
structure Contribution where
  /-- The name of the part. -/
  source : String
  /-- The files that it builds. -/
  files : ArtifactSet := .empty
  /-- The capabilities that it supplies. -/
  capabilities : List Supply := []
  /-- The extra values that it supplies. -/
  extras : List Value := []
  /-- The program to run, if it makes one. -/
  executable : Option Artifact := none

namespace Contribution

/-- What is supplied twice. -/
inductive Item where
  /-- A capability of a kind. -/
  | capability (kind : CapabilityKind)
  /-- The program to run. -/
  | executable
deriving DecidableEq, Repr

/-- How an item is named in a message. -/
def Item.text : Item → String
  | capability kind => "Capability `" ++ kind.text ++ "`"
  | executable => "Executable entry point"

/-- Why contributions cannot be merged. -/
inductive Conflict where
  /-- Two sources supply the same item. -/
  | suppliedTwice (item : Item) (first second : String)
  /-- A value without a kind is supplied as a capability. -/
  | noKind (typeName : String)
deriving DecidableEq, Repr

/-- The misfit of a value that has no kind. -/
def noKind (typeName : String) : Misfit := .noPart typeName "kind"

/-- The problem that an item of a target is supplied by two sources. -/
def suppliedTwice (label : String) (item : Item) (first second : String) : Problem :=
  { kind := .internalConsistency
    message := item.text ++ " was supplied more than once."
    context := [("target", label), ("first", first), ("second", second)] }

/-- What contributions come to so far. -/
structure Merged where
  /-- The files. -/
  files : ArtifactSetBuilder := {}
  /-- The capabilities, each with its source. -/
  capabilities : List (CapabilityKind × Supply × String) := []
  /-- The extra values. -/
  extras : List Value := []
  /-- The program to run, with its source. -/
  executable : Option (Artifact × String) := none

/-- Merge one capability of a source. -/
def addCapability (source : String) (m : Merged) (s : Supply) : Except Conflict Merged :=
  match s.kind? with
  | none => .error (.noKind s.toValue.typeName)
  | some kind =>
    match m.capabilities.lookup kind with
    | some (_, first) => .error (.suppliedTwice (.capability kind) first source)
    | none => .ok { m with capabilities := m.capabilities ++ [(kind, s, source)] }

/-- Merge the program of a source, if it makes one. -/
def addExecutable (source : String) (m : Merged) : Option Artifact → Except Conflict Merged
  | none => .ok m
  | some a =>
    match m.executable with
    | some (_, first) => .error (.suppliedTwice .executable first source)
    | none => .ok { m with executable := some (a, source) }

/-- Merge one contribution: its files, its capabilities in order, its program, its extra values. -/
def add (m : Merged) (c : Contribution) : Except Conflict Merged := do
  let m := { m with files := m.files.addTransitive c.files }
  let m ← c.capabilities.foldlM (addCapability c.source) m
  let m ← addExecutable c.source m c.executable
  return { m with extras := m.extras ++ c.extras }

/-- The description that merged contributions give a target. -/
def Merged.description (m : Merged) (label : String) : Description :=
  { label
    filesToBuild := m.files.build
    capabilities := m.capabilities.map fun e => (e.1, e.2.1)
    extras := m.extras
    executable := m.executable.map Prod.fst }

/-- Merge contributions, in order, into the description of a target. -/
def mergeAll (label : String) (contributions : List Contribution) :
    Except Conflict Description := do
  let m ← contributions.foldlM add {}
  return m.description label

end Contribution

end TargetAssembly
