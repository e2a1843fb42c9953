import TargetAssembly.Value.Reading

/-!
# Build configurations

The configuration of a build holds what is not said by the targets: the architectures, the least
version of the system, and switches for the runs of tests.
-/

namespace TargetAssembly

/-- The configuration of a build. -/
structure Configuration where
  /-- The architectures that are asked for by name. -/
  multiCpus : List String := []
  /-- The architecture if none is asked for by name. -/
  cpu : String := "x86_64"
  /-- The least version of the system. -/
  minimumOs : String := "7.0"
  /-- Whether a run stops at its end to look for leaks. -/
  runMemleaks : Bool := false
  /-- The name of the workspace. -/
  workspaceName : String := "__main__"
  /-- Whether files of other workspaces are found in their former place too. -/
  legacyExternalRunfiles : Bool := true
  /-- Whether coverage is gathered. -/
  coverageEnabled : Bool := false
deriving DecidableEq, Repr

namespace Configuration

/-- The architectures to build for, each once. -/
def architectures (c : Configuration) : List String :=
  if c.multiCpus.isEmpty then [c.cpu] else c.multiCpus.eraseDups

/-- A configuration as a value. -/
def toValue (c : Configuration) : Value :=
  .record "BuildConfiguration" [
    ("ios_multi_cpus", .ofTexts c.multiCpus),
    ("ios_cpu", .text c.cpu),
    ("minimum_os", .text c.minimumOs),
    ("run_memleaks", .bool c.runMemleaks),
    ("workspace_name", .text c.workspaceName),
    ("legacy_external_runfiles", .bool c.legacyExternalRunfiles),
    ("coverage_enabled", .bool c.coverageEnabled)]

/-- A value as a configuration. -/
def ofValue? (v : Value) : Option Configuration := do
  let [multiCpus, cpu, minimumOs, runMemleaks, workspaceName, legacy, coverage] ←
    v.fields? "BuildConfiguration" ["ios_multi_cpus", "ios_cpu", "minimum_os", "run_memleaks",
      "workspace_name", "legacy_external_runfiles", "coverage_enabled"] | none
  return { multiCpus := ← multiCpus.texts?
           cpu := ← cpu.text?
           minimumOs := ← minimumOs.text?
           runMemleaks := ← runMemleaks.bool?
           workspaceName := ← workspaceName.text?
           legacyExternalRunfiles := ← legacy.bool?
           coverageEnabled := ← coverage.bool? }

@[simp] theorem ofValue?_toValue (c : Configuration) : ofValue? c.toValue = some c := by
  simp [ofValue?, toValue, Value.fields?]

end Configuration

end TargetAssembly
