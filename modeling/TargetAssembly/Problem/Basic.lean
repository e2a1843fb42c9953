/-!
# Problems

A problem is what keeps a target from being built: a message, perhaps a hint at a remedy, and the
context in which it came up.  Its kind gives it a stable code, which diagnostics carry.  Problems
that a user of the build can mend are reported; a broken contract between the parts of the build
is not.
-/

namespace TargetAssembly

/-- The stable codes of problems. -/
inductive ProblemCode where
  /-- A target has no sources. -/
  | requiresSource
  /-- Several architectures are asked for at once. -/
  | noMultiArch
  /-- A hosted test has no host application. -/
  | missingHostApp
  /-- The parts of the build contradict each other. -/
  | internalConsistency
  /-- A configuration or an attribute is malformed. -/
  | configuration
deriving DecidableEq, Repr

namespace ProblemCode

/-- The text of a code. -/
def text : ProblemCode → String
  | requiresSource => "E_REQUIRES_SOURCE"
  | noMultiArch => "E_NO_MULTI_ARCH"
  | missingHostApp => "E_MISSING_HOST_APP"
  | internalConsistency => "E_INTERNAL_CONSISTENCY"
  | configuration => "E_CONFIGURATION"

/-- All codes. -/
def all : List ProblemCode :=
  [requiresSource, noMultiArch, missingHostApp, internalConsistency, configuration]

/-- The code with a given text. -/
def ofText? (s : String) : Option ProblemCode := all.find? (·.text == s)

end ProblemCode

/-- The message of a target without sources. -/
def requiresSourceMessage : String := "test target requires at least one source file."

/-- The message of a target for which several architectures are asked for at once. -/
def noMultiArchMessage : String :=
  "test target cannot be built for multiple architectures at the same time."

/-- The kinds of problems. -/
inductive ProblemKind where
  /-- A problem of no special kind, under a code of its own. -/
  | general (code : ProblemCode)
  /-- A target has no sources. -/
  | requiresSource
  /-- Several architectures are asked for at once. -/
  | noMultiArch
  /-- A hosted test has no host application. -/
  | missingHostApp
  /-- A configuration or an attribute is malformed. -/
  | configuration
  /-- The parts of the build contradict each other. -/
  | internalConsistency
deriving DecidableEq, Repr

namespace ProblemKind

/-- The code of a kind. -/
def code : ProblemKind → ProblemCode
  | general code => code
  | requiresSource => .requiresSource
  | noMultiArch => .noMultiArch
  | missingHostApp => .missingHostApp
  | configuration => .configuration
  | internalConsistency => .internalConsistency

/-- Whether problems of a kind are shown to the user; a broken contract is not. -/
def userFacing : ProblemKind → Bool
  | internalConsistency => false
  | _ => true

/-- The name of a kind. -/
def name : ProblemKind → String
  | general _ => "IosTestError"
  | requiresSource => "RequiresSourceError"
  | noMultiArch => "NoMultiArchError"
  | missingHostApp => "MissingHostAppError"
  | configuration => "ConfigurationError"
  | internalConsistency => "InternalConsistencyError"

/-- The message of a kind that has one message for all its problems. -/
def defaultMessage? : ProblemKind → Option String
  | requiresSource => some requiresSourceMessage
  | noMultiArch => some noMultiArchMessage
  | _ => none

end ProblemKind

/-- What keeps a target from being built. -/
structure Problem where
  /-- The kind of the problem. -/
  kind : ProblemKind
  /-- What is wrong. -/
  message : String
  /-- How it can be mended. -/
  hint : Option String := none
  /-- Where it came up, each key once. -/
  context : List (String × String) := []
deriving DecidableEq, Repr

namespace Problem

/-- The code of a problem. -/
def code (p : Problem) : String := p.kind.code.text

/-- The lines of a problem: its message, its hint unless it is missing or empty, and the entries
of its context that are not empty. -/
def lines (p : Problem) : List String :=
  let hint := match p.hint with
    | some h => if h.isEmpty then [] else ["Hint: " ++ h]
    | none => []
  let context := p.context.filterMap fun e =>
    if e.2.isEmpty then none else some ("  " ++ e.1 ++ ": " ++ e.2)
  p.message :: hint ++ context

/-- The full text of a problem. -/
def text (p : Problem) : String := "\n".intercalate p.lines

end Problem

end TargetAssembly
