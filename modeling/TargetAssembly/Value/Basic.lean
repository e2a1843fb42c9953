import TargetAssembly.ArtifactSet.Basic
import TargetAssembly.Binary64
import TargetAssembly.Keyed
import TargetAssembly.Problem.Basic

/-!
# Values of any type

Attributes of a target, extra capabilities and the details of a log entry hold values whose type
is not known beforehand, and so do the answers of foreign systems.  `Value` has one case for each
type that can occur; members of an enumeration and records carry the name of their type.

A mapping binds values to values.  Two keys are the same when they are equal as numbers, as texts
or part by part, whatever their types: true, one and one point zero are one key.  What equals
nothing else is the same key as itself: a floating point number that is no number is told from
others by its bits, and a problem by its occurrence.
-/

namespace TargetAssembly

/-- A member of an enumeration. -/
structure Enumerated where
  /-- The name of the enumeration. -/
  type : String
  /-- The name of the member. -/
  member : String
  /-- The text that the member stands for. -/
  value : String
deriving DecidableEq, Repr

/-- A value of any type. -/
inductive Value where
  /-- The absent value. -/
  | null
  /-- A truth value. -/
  | bool (b : Bool)
  /-- A whole number. -/
  | int (i : Int)
  /-- A floating point number. -/
  | float (x : Binary64)
  /-- A text. -/
  | text (s : String)
  /-- A byte string. -/
  | bytes (bs : List UInt8)
  /-- An artifact. -/
  | artifact (a : Artifact)
  /-- A set of artifacts. -/
  | artifacts (s : ArtifactSet)
  /-- A member of an enumeration. -/
  | enumerated (e : Enumerated)
  /-- A list that can change. -/
  | list (items : List Value)
  /-- A list that cannot change. -/
  | tuple (items : List Value)
  /-- A mapping, which may be for reading only. -/
  | mapping (readOnly : Bool) (entries : List (Value × Value))
  /-- A record: the name of its type and its fields. -/
  | record (type : String) (fields : List (String × Value))
  /-- A problem of a kind, with its message, its hint and its context.  The occurrence tells it from
  others that agree with it in all of these. -/
  | problem (occurrence : Nat) (kind : ProblemKind) (message hint : Value)
    (context : List (Value × Value))
deriving Inhabited

namespace Value

/-- The name of the type of a value. -/
def typeName : Value → String
  | null => "NoneType"
  | bool _ => "bool"
  | int _ => "int"
  | float _ => "float"
  | text _ => "str"
  | bytes _ => "bytes"
  | artifact _ => "Artifact"
  | artifacts _ => "OrderedArtifactSet"
  | enumerated e => e.type
  | list _ => "list"
  | tuple _ => "tuple"
  | mapping readOnly _ => if readOnly then "mappingproxy" else "dict"
  | record type _ => type
  | problem _ kind _ _ _ => kind.name

/-- The text of a value that counts as text: a text itself, or a member of an enumeration. -/
def string? : Value → Option String
  | text s => some s
  | enumerated e => some e.value
  | _ => none

/-- The whole number of a value that counts as one: a whole number itself, or a truth value. -/
def int? : Value → Option Int
  | int i => some i
  | bool b => some (if b then 1 else 0)
  | _ => none

/-- Whether a value is a record of a given type. -/
def isRecord (name : String) : Value → Bool
  | record type _ => type == name
  | _ => false

/-- Whether a value is an artifact. -/
def isArtifact : Value → Bool
  | artifact _ => true
  | _ => false

/-! ## Numbers -/

/-- What a value is worth as a number. -/
inductive Number where
  /-- No number, but bits that stand for none. -/
  | undefined (bits : UInt64)
  /-- Beyond all ratios, below them if negative. -/
  | infinite (negative : Bool)
  /-- A ratio of a whole number and a positive natural number. -/
  | ratio (num : Int) (den : Nat)

/-- The number that a floating point number is. -/
def Number.ofBinary64 (x : Binary64) : Number :=
  if x.isNaN then .undefined x.bits
  else if x.isInfinite then .infinite x.negative
  else .ratio x.ratio.1 x.ratio.2

/-- The number that a value is, if it is one. -/
def number? : Value → Option Number
  | float x => some (.ofBinary64 x)
  | v => v.int?.map (.ratio · 1)

/-- Whether two numbers are equal; what is no number is equal to the same bits only. -/
def Number.equal : Number → Number → Bool
  | .undefined a, .undefined b => a == b
  | .infinite a, .infinite b => a == b
  | .ratio a b, .ratio c d => a * d == c * b
  | _, _ => false

/-- Whether a number is less than another. -/
def Number.less : Number → Number → Bool
  | .infinite a, .infinite b => a && !b
  | .infinite a, .ratio _ _ => a
  | .ratio _ _, .infinite b => !b
  | .ratio a b, .ratio c d => a * d < c * b
  | _, _ => false

/-! ## Keys -/

mutual

/-- Whether two values are the same key. -/
def sameKey : Value → Value → Bool
  | null, null => true
  | bytes a, bytes b => a == b
  | artifact a, artifact b => a == b
  | artifacts s, artifacts t => s.sameAs t
  | tuple xs, tuple ys => sameKeys xs ys
  | list xs, list ys => sameKeys xs ys
  | record m xs, record n ys => m == n && sameFields xs ys
  | problem m _ _ _ _, problem n _ _ _ _ => m == n
  | v, w =>
    match v.number?, w.number? with
    | some a, some b => a.equal b
    | _, _ =>
      match v.string?, w.string? with
      | some a, some b => a == b
      | _, _ => false

/-- Whether two lists hold the same keys in the same order. -/
def sameKeys : List Value → List Value → Bool
  | [], [] => true
  | x :: xs, y :: ys => sameKey x y && sameKeys xs ys
  | _, _ => false

/-- Whether two records hold the same keys in the same fields. -/
def sameFields : List (String × Value) → List (String × Value) → Bool
  | [], [] => true
  | (m, x) :: xs, (n, y) :: ys => m == n && sameKey x y && sameFields xs ys
  | _, _ => false

end

instance : BEq Value := ⟨sameKey⟩

/-- The mapping that binds texts to values. -/
def ofNamed (pairs : List (String × Value)) : Value :=
  mapping false (pairs.map fun p => (text p.1, p.2))

/-! ## Views of typed data as values -/

/-- A text or nothing. -/
def ofText? : Option String → Value
  | some s => text s
  | none => null

/-- A list of texts that cannot change. -/
def ofTexts (xs : List String) : Value := tuple (xs.map text)

/-- A list of artifacts that cannot change. -/
def ofArtifacts (xs : List Artifact) : Value := tuple (xs.map artifact)

/-- An artifact or nothing. -/
def ofArtifact? : Option Artifact → Value
  | some a => artifact a
  | none => null

/-- A list of pairs of texts that cannot change. -/
def ofTextPairs (xs : List (String × String)) : Value :=
  tuple (xs.map fun p => tuple [text p.1, text p.2])

/-- A mapping of texts to texts, for reading only. -/
def ofTextMapping (entries : List (String × String)) : Value :=
  mapping true (entries.map fun e => (text e.1, text e.2))

end Value

end TargetAssembly
