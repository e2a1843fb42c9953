import TargetAssembly.Session
import TargetAssembly.Untyped.Assembly

/-!
# Sessions of any values

A session in which targets, configurations, libraries, host applications, reports and substitutes
for answers may be of any type.  Where all of them are what they should be, a target is assembled
by `Session.assemble`; otherwise it is assembled part by part.
-/

namespace TargetAssembly.Untyped

/-- A registry and what has been done with it. -/
structure Session where
  /-- What requests are answered from. -/
  registry : Registry := {}
  /-- The requests that the registry answered, the oldest first. -/
  calls : List Call := []
  /-- What was reported in all builds. -/
  ledger : Ledger := {}
  /-- What was noted in all builds. -/
  log : Log := {}

/-- Substitutes as answers of the types that were asked for, if all of them are. -/
def typedSubstitutes? (s : Substitutes) : Option TargetAssembly.Substitutes :=
  let isProper (e : Operation × Except Fault Value) : Bool := match e.2 with
    | .ok v => (e.1.readAnswer? v).isSome
    | .error f => f.typed?.isSome
  if s.all isProper then some fun o =>
    match s.lookup o with
    | some (.ok v) => (o.readAnswer? v).map .ok
    | some (.error f) => f.typed?.map .error
    | none => none
  else none

namespace Session

/-! ## Assembling -/

/-- What a build in a session came to. -/
structure Outcome where
  /-- The session afterwards. -/
  session : Session
  /-- The description, or the fault that stopped the build. -/
  result : Except Fault Description
  /-- The requests that the registry answered during the build. -/
  answered : List Call

/-- The session that it is if all that it holds is what it should be, but for the requests, none of
which a build looks at. -/
def typed? (s : Session) : Option TargetAssembly.Session := do
  return { registry := ← s.registry.typed?, ledger := ← s.ledger.typed?, log := ← s.log.typed? }

/-- What comes of a session by a build of which everything is what it should be. -/
def after (s : Session) (o : TargetAssembly.Session.Outcome) : Outcome :=
  let answered := o.answered.map Call.ofRequest
  { session := { s with
      calls := s.calls ++ answered
      ledger := .ofTyped o.session.ledger
      log := .ofTyped o.session.log }
    result := (o.result.map .ofTyped).mapError .ofTyped
    answered }

/-- Assemble a target part by part. -/
def assembleByParts (s : Session) (target configuration : Value) (substitutes : Substitutes)
    (apart : Bool) : Outcome :=
  let start : Progress := if apart then {} else { ledger := s.ledger, log := s.log }
  let resolver : Resolver := { registry := s.registry, substitutes }
  let (result, p) : Except Fault Description × Progress :=
    StateT.run (ExceptT.run (Untyped.assembleByParts resolver target configuration)) start
  let s := { s with calls := s.calls ++ p.calls }
  { session := if apart then s else { s with ledger := p.ledger, log := p.log }
    result
    answered := p.calls }

/-- Assemble a target.  A build that keeps apart leaves no trace in the ledger and the log. -/
def assemble (s : Session) (target configuration : Value) (substitutes : Substitutes := [])
    (apart : Bool := false) : Outcome :=
  match s.typed?, TestTarget.ofValue? target, Configuration.ofValue? configuration,
    typedSubstitutes? substitutes with
  | some typed, some a, some c, some given => s.after (typed.assemble a c given apart)
  | _, _, _, _ => s.assembleByParts target configuration substitutes apart

/-! ## Requests by name -/

/-- What can be asked for by its name. -/
inductive Callee where
  /-- An operation that the registry answers. -/
  | operation (o : Operation)
  /-- The registration of a host application. -/
  | addHost
  /-- The names of the requests that were answered. -/
  | operations
  /-- The arguments of the first request of a name that was answered. -/
  | recorded
  /-- A value of a type, which cannot be called. -/
  | part (type : String)

/-- The arguments that a call takes, if there can be a call. -/
def Callee.signature : Callee → Option Signature
  | operation o => some (Request.signature o)
  | addHost => some { callee := calleeOf "add_host_app", required := ["host"] }
  | operations => some { callee := calleeOf "operations" }
  | recorded => some { callee := calleeOf "call", required := ["operation"] }
  | part _ => none

/-- Why a request by name fails. -/
inductive CallFault where
  /-- It is answered by a fault. -/
  | fault (f : Fault)
  /-- No request with a name was recorded. -/
  | notRecorded (name : Value)

/-- Make one request of the registry. -/
def request (s : Session) (q : Request) : Session × Except Fault Value :=
  match q.recorded with
  | .error m => (s, .error (.misfit m))
  | .ok arguments =>
    ({ s with calls := s.calls ++ [⟨q.operation, arguments⟩] }, s.registry.answer q)

/-- The names of the requests that were answered, in their order. -/
def operations (s : Session) : List String := s.calls.map (·.operation.name)

/-- The arguments of the first request with a given name that was answered. -/
def argumentsOf? (s : Session) (name : Value) : Option (List (String × Value)) :=
  (s.calls.find? fun c => (Value.text c.operation.name).sameKey name).map (·.arguments)

/-- Register a host application. -/
def addHost (s : Session) (host : Value) : Except Misfit Session := do
  return { s with registry := ← s.registry.addHost host }

/-- The types of what has a name but is no operation. -/
def typeOfPart? (s : Session) (name : String) : Option String :=
  [("calls", "list"), ("host_apps", "dict"), ("libraries", "dict"),
    ("memleaks_library", s.registry.memleaks.typeName)].lookup name

/-- What has a given name. -/
def callee (s : Session) (name : String) : Except Misfit Callee :=
  match Operation.named? name with
  | some o => .ok (.operation o)
  | none =>
    match name with
    | "add_host_app" => .ok .addHost
    | "operations" => .ok .operations
    | "call" => .ok .recorded
    | _ =>
      match s.typeOfPart? name with
      | some type => .ok (.part type)
      | none => .error (.noPart answerer name)

/-- Call something with named arguments. -/
def call (s : Session) (c : Callee) (given : List (String × Value)) :
    Session × Except CallFault Value :=
  let misfit (m : Misfit) : Except CallFault Value := .error (.fault (.misfit m))
  match c.signature.mapM (·.check (given.map Prod.fst)), c with
  | .error m, _ => (s, misfit m)
  | .ok _, .operation o =>
    let (s, result) := s.request { operation := o, given }
    (s, result.mapError .fault)
  | .ok _, .addHost =>
    let host := (given.lookup "host").getD .null
    match s.addHost host with
    | .ok s => (s, .ok host)
    | .error m => (s, misfit m)
  | .ok _, .operations => (s, .ok (.list (s.operations.map .text)))
  | .ok _, .recorded =>
    let sought := (given.lookup "operation").getD .null
    match s.argumentsOf? sought with
    | some arguments => (s, .ok (.ofNamed arguments))
    | none => (s, .error (.notRecorded sought))
  | .ok _, .part type => (s, misfit (.notCallable type))

end Session

end TargetAssembly.Untyped
