import TargetAssembly.Assembly
import TargetAssembly.Resolver.Registry

/-!
# Sessions

A session assembles targets one after the other from one registry, into one ledger and one log,
and records the requests that its registry answers.  For a single build, answers to some requests
can be put in place of those of the registry; such requests are not recorded.
-/

namespace TargetAssembly

/-- Answers to operations that take the place of those of a registry. -/
abbrev Substitutes := (o : Operation) → Option (Except Fault o.Answer)

/-- The resolver that gives substitutes where there are any. -/
def Resolver.substitute (r : Resolver) (s : Substitutes) : Resolver :=
  ⟨fun q => (s q.operation).getD (r.answer q)⟩

/-- A registry and what has been done with it. -/
structure Session where
  /-- What requests are answered from. -/
  registry : Registry := {}
  /-- The requests that the registry answered, the oldest first. -/
  requests : List Request := []
  /-- The diagnostics of all builds. -/
  ledger : DiagnosticLedger := {}
  /-- The log of all builds. -/
  log : Log := {}

namespace Session

/-- What a build in a session came to. -/
structure Outcome where
  /-- The session afterwards. -/
  session : Session
  /-- The description, or the fault that stopped the build. -/
  result : Except Fault Description
  /-- The requests that the registry answered during the build. -/
  answered : List Request

/-- Assemble a target.  A build that keeps apart leaves no trace in the ledger and the log. -/
def assemble (s : Session) (a : TestTarget) (c : Configuration)
    (substitutes : Substitutes := fun _ => none) (apart : Bool := false) : Outcome :=
  let resolver := s.registry.resolver.substitute substitutes
  let start : Progress := if apart then {} else { ledger := s.ledger, log := s.log }
  let (result, p) := Assembly.runFrom start (Assembly.assemble resolver a c)
  let answered := p.requests.filter fun q => (substitutes q.operation).isNone
  let s := { s with requests := s.requests ++ answered }
  { session := if apart then s else { s with ledger := p.ledger, log := p.log }, result, answered }

/-- Make one request of the registry. -/
def request (s : Session) (q : Request) : Session × Except Fault q.Answer :=
  ({ s with requests := s.requests ++ [q] }, s.registry.answer q)

/-- The names of the requests that were answered, in their order. -/
def operations (s : Session) : List String := s.requests.map (·.operation.name)

/-- The arguments of the first request with a given name that was answered. -/
def argumentsOf? (s : Session) (operation : String) : Option (List (String × Value)) :=
  (s.requests.find? (·.operation.name == operation)).map (·.arguments)

end Session

end TargetAssembly
