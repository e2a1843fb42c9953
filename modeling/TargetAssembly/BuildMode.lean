import TargetAssembly.Value.Basic

/-!
# Modes and products

A test target is built in one of two modes: as an application that holds its tests, or as a unit
test that a host application loads.  The mode fixes the type of the product.
-/

namespace TargetAssembly

/-- The type of the product of a target. -/
inductive ProductType where
  /-- An application. -/
  | application
  /-- A bundle of unit tests. -/
  | unitTest
deriving DecidableEq, Repr

namespace ProductType

/-- The text of a product type. -/
def text : ProductType → String
  | application => "com.apple.product-type.application"
  | unitTest => "com.apple.product-type.bundle.unit-test"

/-- A product type as a member of an enumeration. -/
def member (p : ProductType) : Enumerated :=
  let name := match p with
    | application => "APPLICATION"
    | unitTest => "UNIT_TEST"
  { type := "ProductType", member := name, value := p.text }

/-- A product type as a value. -/
def toValue (p : ProductType) : Value := .enumerated p.member

/-- All product types. -/
def all : List ProductType := [application, unitTest]

/-- A value as a product type. -/
def ofValue? : Value → Option ProductType
  | .enumerated e => all.find? (·.member = e)
  | _ => none

@[simp] theorem ofValue?_toValue (p : ProductType) : ofValue? p.toValue = some p := by
  cases p <;> rfl

end ProductType

/-- The way in which a test target is built. -/
inductive BuildMode where
  /-- As an application that holds its tests. -/
  | application
  /-- As a unit test that a host application loads. -/
  | hostedUnitTest
deriving DecidableEq, Repr

namespace BuildMode

/-- The text of a mode. -/
def text : BuildMode → String
  | application => "application"
  | hostedUnitTest => "hosted_unit_test"

/-- A mode as a member of an enumeration. -/
def member (m : BuildMode) : Enumerated :=
  let name := match m with
    | application => "APPLICATION"
    | hostedUnitTest => "HOSTED_UNIT_TEST"
  { type := "BuildMode", member := name, value := m.text }

/-- A mode as a value. -/
def toValue (m : BuildMode) : Value := .enumerated m.member

/-- All modes. -/
def all : List BuildMode := [application, hostedUnitTest]

/-- A value as a mode. -/
def ofValue? : Value → Option BuildMode
  | .enumerated e => all.find? (·.member = e)
  | _ => none

@[simp] theorem ofValue?_toValue (m : BuildMode) : ofValue? m.toValue = some m := by
  cases m <;> rfl

/-- The mode of a target, by whether a host application loads its tests. -/
def ofHosted (isHosted : Bool) : BuildMode := if isHosted then hostedUnitTest else application

/-- The type of the product that a mode makes. -/
def productType : BuildMode → ProductType
  | application => .application
  | hostedUnitTest => .unitTest

/-- The frameworks that a mode adds to those of the target. -/
def sdkFrameworks : BuildMode → List String
  | application => []
  | hostedUnitTest => ["XCTest"]

end BuildMode

/-- What debug symbols are put out for. -/
inductive SymbolOutput where
  /-- A test. -/
  | test
deriving DecidableEq, Repr

namespace SymbolOutput

/-- The name under which debug symbols are put out. -/
def text : SymbolOutput → String
  | test => "test"

/-- The output of debug symbols as a member of an enumeration. -/
def member (o : SymbolOutput) : Enumerated :=
  { type := "DsymOutputType", member := "TEST", value := o.text }

/-- The output of debug symbols as a value. -/
def toValue (o : SymbolOutput) : Value := .enumerated o.member

/-- All outputs of debug symbols. -/
def all : List SymbolOutput := [test]

/-- A value as an output of debug symbols. -/
def ofValue? : Value → Option SymbolOutput
  | .enumerated e => all.find? (·.member = e)
  | _ => none

@[simp] theorem ofValue?_toValue (o : SymbolOutput) : ofValue? o.toValue = some o := by
  cases o; rfl

end SymbolOutput

end TargetAssembly
