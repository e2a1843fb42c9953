import TargetAssembly.Resolver.Request
import TargetAssembly.Value.Misfit
import TargetAssembly.Value.Use

/-!
# Requests of any type

A request can be made by the name of its operation and by named arguments of any type.  `typed?`
gives the request that it is if all its arguments are what they should be.
-/

namespace TargetAssembly.Untyped

/-- A request by an operation and named arguments. -/
structure Request where
  /-- The operation that is asked for. -/
  operation : Operation
  /-- The arguments under their names. -/
  given : List (String × Value)

/-- A request as it is recorded. -/
structure Call where
  /-- The operation that was asked for. -/
  operation : Operation
  /-- The arguments that are recorded. -/
  arguments : List (String × Value)

/-- A request with the arguments that are recorded with it. -/
def Call.ofRequest (q : TargetAssembly.Request) : Call := ⟨q.operation, q.arguments⟩

/-- The name of what answers requests by name. -/
def answerer : String := "InProcessResolver"

/-- What is called to answer an operation of a name. -/
def calleeOf (operation : String) : String := answerer ++ "." ++ operation

namespace Request

/-- The name of the argument that is the target. -/
def targetName : String := "attributes"

/-- The arguments that an operation takes by place besides the target. -/
def furtherArguments : Operation → List String
  | .commonLibrary => ["extra_frameworks", "extra_libraries"]
  | .compilation => ["library", "link_config", "extra_inputs", "dsym_output_type"]
  | .bundle => ["library", "link_config", "bundle_format", "minimum_os", "dsym_output_type"]
  | .projectExport => ["library", "product_type"]
  | .testSupport => ["config"]
  | .hostApp | .memleaksLibrary | .resourceReport => []

/-- The arguments that an operation takes by name only. -/
def namedArguments : Operation → List String
  | .projectExport => ["settings", "test_host"]
  | _ => []

/-- The arguments that an operation takes. -/
def signature (o : Operation) : Signature :=
  { callee := calleeOf o.name
    required := targetName :: furtherArguments o
    named := namedArguments o }

/-- An argument of a request. -/
def argument (q : Request) (name : String) : Value := (q.given.lookup name).getD .null

/-- The target of a request. -/
def target (q : Request) : Value := q.argument targetName

/-- The arguments that are recorded with a request: all but the target and its library, and of a
target whose host is looked up the label of the host. -/
def recorded (q : Request) : Except Misfit (List (String × Value)) :=
  match q.operation with
  | .hostApp => do return [("xctest_app", ← q.target.part "xctest_app")]
  | o =>
    let names := (furtherArguments o ++ namedArguments o).filter (· ≠ "library")
    .ok (names.map fun name => (name, q.argument name))

/-- The request that is made if all arguments are what they should be. -/
def typed? (q : Request) : Option TargetAssembly.Request := do
  let target ← TestTarget.ofValue? q.target
  match q.operation with
  | .hostApp => return .hostApp target
  | .memleaksLibrary => return .memleaksLibrary target
  | .commonLibrary =>
    return .commonLibrary target (← (q.argument "extra_frameworks").texts?)
      (← (q.argument "extra_libraries").list? Library.ofValue?)
  | .compilation =>
    return .compilation target (← Library.ofValue? (q.argument "library"))
      (← LinkPlan.ofValue? (q.argument "link_config"))
      (← (q.argument "extra_inputs").artifactList?)
      (← SymbolOutput.ofValue? (q.argument "dsym_output_type"))
  | .bundle =>
    return .bundle target (← Library.ofValue? (q.argument "library"))
      (← LinkPlan.ofValue? (q.argument "link_config")) (← (q.argument "bundle_format").text?)
      (← (q.argument "minimum_os").text?)
      (← SymbolOutput.ofValue? (q.argument "dsym_output_type"))
  | .resourceReport => return .resourceReport target
  | .projectExport =>
    return .projectExport target (← Library.ofValue? (q.argument "library"))
      (← ProductType.ofValue? (q.argument "product_type")) (← (q.argument "settings").textPairs?)
      (← (q.argument "test_host").option? Value.text?)
  | .testSupport => return .testSupport target (← Configuration.ofValue? (q.argument "config"))

end Request

end TargetAssembly.Untyped
