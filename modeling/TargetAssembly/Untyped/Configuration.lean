import TargetAssembly.Assembly
import TargetAssembly.Configuration.Text
import TargetAssembly.Value.ToJson
import TargetAssembly.Value.Use

/-!
# Configurations of any type

The architectures of a configuration, its text and the validation of a target, where the fields of
the configuration may be of any type.
-/

namespace TargetAssembly.Untyped

/-- The architectures that a configuration asks for, each once. -/
def architectures (configuration : Value) : Except Misfit (List Value) := do
  let byName ← configuration.part "ios_multi_cpus"
  if byName.isTrue then Value.distinct (← byName.items)
  else return [← configuration.part "ios_cpu"]

/-! ## Text -/

/-- The fields of a configuration, of which the architectures are asked for as a list. -/
def configurationMembers (configuration : Value) : Except Misfit (List (String × Value)) := do
  let byName ← (← configuration.part "ios_multi_cpus").items
  let others ← ["ios_cpu", "minimum_os", "run_memleaks", "workspace_name",
    "legacy_external_runfiles", "coverage_enabled"].mapM fun name => do
      return (name, ← configuration.part name)
  return ("ios_multi_cpus", .list byName) :: others

/-- The text of a configuration, written field by field. -/
def writtenByFields (configuration : Value) : Except Unwritable (List Char) := do
  let members ← (configurationMembers configuration).mapError .misfit
  return (← (Value.ofNamed members).toJson).indented 0 ++ ['\n']

/-- The text of a configuration. -/
def written (configuration : Value) : Except Unwritable (List Char) :=
  match Configuration.ofValue? configuration with
  | some c => .ok c.written
  | none => writtenByFields configuration

/-- Write a configuration to a file. -/
def save (configuration : Value) (t : FileTree) (p : FilePath) :
    FileTree × Except ExportError Unit :=
  t.writeText p (written configuration)

/-! ## Validation -/

/-- The problem that nothing is compiled for a target, if that is so. -/
def missingSources (common : Value) : Except Misfit (Option TargetAssembly.Problem) := do
  return if (← common.part "has_compiled_archive").isTrue then none else some Validation.noSources

/-- The problem that several architectures are asked for at once, if that is so. -/
def severalArchitectures (configuration : Value) :
    Except Misfit (Option TargetAssembly.Problem) := do
  let asked ← architectures configuration
  if asked.length ≤ 1 then return none
  return some (Validation.tooManyArchitectures
    (← Value.joined Validation.architectureSeparator (.tuple asked)))

/-- All that is wrong with a target: its sources first, then its architectures. -/
def problems (common configuration : Value) : Except Misfit (List TargetAssembly.Problem) :=
  match CommonLibrary.ofValue? common, Configuration.ofValue? configuration with
  | some l, some c => .ok (Validation.problems l c)
  | _, _ => do
    return (← missingSources common).toList ++ (← severalArchitectures configuration).toList

end TargetAssembly.Untyped
