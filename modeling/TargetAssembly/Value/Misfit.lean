import TargetAssembly.Decimal.Numeral

/-!
# Misfits

A value of any type may be used for something that its type does not provide, and a whole number may
have more digits than can be written.  `Misfit` has one case for each way in which that goes wrong,
and `Misfit.message` words it.
-/

namespace TargetAssembly

/-- A use that a value does not fit. -/
inductive Misfit where
  /-- A value of a type has no part of that name. -/
  | noPart (type name : String)
  /-- A value of a type has no items. -/
  | noItems (type : String)
  /-- A value of a type has no members. -/
  | noMembers (type : String)
  /-- A value of a type cannot be a key, because it can change. -/
  | noKey (type : String)
  /-- The entry of a mapping with an index has no parts. -/
  | noEntry (index : Nat)
  /-- The entry of a mapping with an index has a number of parts other than two. -/
  | entryLength (index length : Nat)
  /-- A value of a type stands where a type has to. -/
  | notType (type : String)
  /-- A text stands where an artifact has to. -/
  | textForArtifact
  /-- A list stands where an artifact has to. -/
  | listForArtifact
  /-- A value of a type stands where an artifact has to. -/
  | notArtifact (type : String)
  /-- What is called by a name does not take an argument. -/
  | unexpectedArgument (callee argument : String)
  /-- What is called by a name is given an argument twice. -/
  | repeatedArgument (callee argument : String)
  /-- What is called by a name is not given some arguments, which it takes by place. -/
  | missingArguments (callee : String) (arguments : List String)
  /-- What is called by a name is not given some arguments, which it takes by name only. -/
  | missingNamed (callee : String) (arguments : List String)
  /-- An argument is not named by a text. -/
  | argumentNotNamed
  /-- A part of a value of a type cannot be given another value. -/
  | readOnlyPart (type name : String)
  /-- A text stands where a byte string has to. -/
  | textForBytes
  /-- A value of a type has no items that could be listed among others. -/
  | notListed (type : String)
  /-- What is to be joined has no items. -/
  | notJoined
  /-- The item at an index of what is to be joined is no text, but a value of a type. -/
  | notWord (index : Nat) (type : String)
  /-- A value of a type cannot be compared with one of another type. -/
  | incomparable (left right : String)
  /-- A value of a type cannot be called. -/
  | notCallable (type : String)
  /-- A value of a type has no bytes. -/
  | noBytes (type : String)
  /-- A whole number has too many digits to be written. -/
  | tooManyDigits
deriving DecidableEq, Repr

namespace Misfit

/-- Names in quotes, as a list in a sentence. -/
def enumeration : List String → String
  | [] => ""
  | [a] => "'" ++ a ++ "'"
  | [a, b] => "'" ++ a ++ "' and '" ++ b ++ "'"
  | a :: rest => go ("'" ++ a ++ "'") rest
where
  /-- Go on with a list that started with some text. -/
  go (start : String) : List String → String
    | [] => start
    | [z] => start ++ ", and '" ++ z ++ "'"
    | b :: rest => go (start ++ ", '" ++ b ++ "'") rest

/-- The message of missing arguments of a sort. -/
def missingMessage (callee sort : String) (arguments : List String) : String :=
  callee ++ "() missing " ++ toString arguments.length ++ " required " ++ sort ++ " argument" ++
    (if arguments.length = 1 then "" else "s") ++ ": " ++ enumeration arguments

/-- The message of a misfit. -/
def message : Misfit → String
  | noPart type name => "'" ++ type ++ "' object has no attribute '" ++ name ++ "'"
  | noItems type => "'" ++ type ++ "' object is not iterable"
  | noMembers type => "argument of type '" ++ type ++ "' is not iterable"
  | noKey type => "unhashable type: '" ++ type ++ "'"
  | noEntry index =>
    "cannot convert dictionary update sequence element #" ++ toString index ++ " to a sequence"
  | entryLength index length =>
    "dictionary update sequence element #" ++ toString index ++ " has length " ++
      toString length ++ "; 2 is required"
  | notType type => "__class__ must be set to a class, not '" ++ type ++ "' object"
  | textForArtifact => "string indices must be integers, not 'str'"
  | listForArtifact => "list indices must be integers or slices, not str"
  | notArtifact type => "'" ++ type ++ "' object is not subscriptable"
  | unexpectedArgument callee argument =>
    callee ++ "() got an unexpected keyword argument '" ++ argument ++ "'"
  | repeatedArgument callee argument =>
    callee ++ "() got multiple values for argument '" ++ argument ++ "'"
  | missingArguments callee arguments => missingMessage callee "positional" arguments
  | missingNamed callee arguments => missingMessage callee "keyword-only" arguments
  | argumentNotNamed => "keywords must be strings"
  | readOnlyPart type name =>
    "'" ++ type ++ "' object attribute '" ++ name ++ "' is read-only"
  | textForBytes => "a bytes-like object is required, not 'str'"
  | notListed type => "Value after * must be an iterable, not " ++ type
  | notJoined => "can only join an iterable"
  | notWord index type =>
    "sequence item " ++ toString index ++ ": expected str instance, " ++ type ++ " found"
  | incomparable left right =>
    "'<' not supported between instances of '" ++ left ++ "' and '" ++ right ++ "'"
  | notCallable type => "'" ++ type ++ "' object is not callable"
  | noBytes type => "cannot serialize type " ++ type
  | tooManyDigits => Decimal.limitMessage ""

end Misfit

/-!
## Signatures

A signature says which arguments a call takes.  The arguments that are given suit it if each is
one of them and none of those that are required is missing.  What is called has a receiver, which
it takes from the call itself, so the receiver cannot be given again by its name.
-/

/-- The arguments that a call takes. -/
structure Signature where
  /-- The name by which messages refer to what is called. -/
  callee : String
  /-- The arguments that are required. -/
  required : List String := []
  /-- The arguments that may be left out. -/
  optional : List String := []
  /-- The arguments that are required, and are given by name only. -/
  named : List String := []
deriving DecidableEq, Repr

namespace Signature

/-- Whether a call takes an argument. -/
def takes (s : Signature) (argument : String) : Bool :=
  s.required.contains argument || s.optional.contains argument || s.named.contains argument

/-- The name of the receiver. -/
def receiver : String := "self"

/-- What keeps given arguments from suiting a call: the first that it does not take by name, else
all that are missing. -/
def misfit? (s : Signature) (given : List String) : Option Misfit :=
  let missing (arguments : List String) : List String := arguments.filter (!given.contains ·)
  match given.find? (!s.takes ·) with
  | some a =>
    if a = receiver then some (.repeatedArgument s.callee a)
    else some (.unexpectedArgument s.callee a)
  | none =>
    match missing s.required, missing s.named with
    | [], [] => none
    | [], l => some (.missingNamed s.callee l)
    | l, _ => some (.missingArguments s.callee l)

/-- Check given arguments. -/
def check (s : Signature) (given : List String) : Except Misfit Unit :=
  match s.misfit? given with
  | some m => .error m
  | none => .ok ()

end Signature

end TargetAssembly
