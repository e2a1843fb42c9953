import TargetAssembly.Text.Character
import TargetAssembly.Text.Quoted

/-!
# Layout of a text in its room

What stands behind the colon of a field asks for the fill, the alignment, the width and the
greatest length of a text.  The same notation serves for numbers, so it also has signs, grouping
and forms; a text refuses these.  Without further notice a text stands at the start of its room, and
a number at the end.
-/

namespace TargetAssembly.Template

/-!
## What can be wrong with a template

Filling a template stops at the first thing that is wrong with it.  `Failure` has one case for
each such thing, and `Failure.message` words it.
-/

/-- What is wrong with a template. -/
inductive Failure where
  /-- A closing brace stands alone. -/
  | singleClosing
  /-- An opening brace ends the template. -/
  | singleOpening
  /-- An opening brace stands inside a field. -/
  | openingInField
  /-- A field does not end. -/
  | unclosedField
  /-- What stands behind a colon does not end. -/
  | unclosedSpec
  /-- No letter follows an exclamation mark. -/
  | missingConversion
  /-- Neither a colon nor the end of the field follows the letter. -/
  | afterConversion
  /-- The letter asks for nothing known. -/
  | unknownConversion (c : Char)
  /-- Fields are nested too deep. -/
  | tooDeep
  /-- A number has too many digits. -/
  | numberTooLong
  /-- The field is numbered, but there are no numbered values. -/
  | noPosition (index : Nat)
  /-- The field has another name. -/
  | noName (name : String)
  /-- A bracket does not end. -/
  | missingBracket
  /-- Something else than a point or a bracket follows a bracket. -/
  | afterBracket
  /-- A point or a bracket is followed by nothing. -/
  | emptyPart
  /-- A value of a kind has no part of that name. -/
  | noPart (kind name : String)
  /-- A kind itself has no part of that name. -/
  | noPartOfKind (kind name : String)
  /-- A part of that name is not there. -/
  | missingPart (name : String)
  /-- A text has no character at that index. -/
  | noCharacter
  /-- A list has no item at that index. -/
  | noItem
  /-- A text is indexed by something else than a number. -/
  | characterNotNumbered
  /-- A list is indexed by something else than a number. -/
  | itemNotNumbered
  /-- A table has no entry under that key. -/
  | noEntry (shownKey : String)
  /-- A value of a kind cannot be indexed. -/
  | notIndexed (kind : String)
  /-- A kind itself cannot be indexed. -/
  | kindNotIndexed (kind : String)
  /-- A kind that was given an index cannot be given another one. -/
  | indexedAgain (shown : String)
  /-- A value of a kind cannot be laid out. -/
  | noLayout (kind : String)
  /-- What stands behind the colon goes on where it has to end. -/
  | invalidSpec (spec kind : String)
  /-- A point in it is followed by no number. -/
  | missingPrecision
  /-- It asks for two ways to group digits. -/
  | bothGroupings
  /-- It asks to group the digits of something that has none. -/
  | groupingWith (grouping : Char) (type : Char)
  /-- It asks for a form that values of a kind do not have. -/
  | unknownForm (type : Char) (kind : String)
  /-- It asks for a sign. -/
  | signNotAllowed (sign : Char)
  /-- It asks to drop the sign of zero. -/
  | zeroNotAllowed
  /-- It asks for the alternate form. -/
  | alternateNotAllowed
  /-- It asks for room between sign and digits. -/
  | innerAlignment
  /-- It asks for digits behind the point of a whole number. -/
  | precisionNotAllowed
  /-- It asks for more digits behind the point than any number has. -/
  | precisionTooLong
  /-- It asks to drop the sign of zero of a whole number. -/
  | zeroNotWhole
  /-- It asks for the sign of a character. -/
  | signWithCharacter
  /-- It asks for the alternate form of a character. -/
  | alternateWithCharacter
  /-- No character has the number. -/
  | noSuchCharacter
deriving DecidableEq, Repr

/-- A character in a message: itself if ASCII shows it, else its number. -/
def shownChar (c : Char) : String :=
  if 32 < c.toNat && c.toNat < 128 then String.ofList [c]
  else "\\x" ++ String.ofList (Nat.toDigits 16 c.toNat)

/-- The message of a failure. -/
def Failure.message : Failure → String
  | singleClosing => "Single '\x7d' encountered in format string"
  | singleOpening => "Single '\x7b' encountered in format string"
  | openingInField => "unexpected '\x7b' in field name"
  | unclosedField => "expected '\x7d' before end of string"
  | unclosedSpec => "unmatched '\x7b' in format spec"
  | missingConversion => "end of string while looking for conversion specifier"
  | afterConversion => "expected ':' after conversion specifier"
  | unknownConversion c =>
    "Unknown conversion specifier " ++
      (if 32 < c.toNat && c.toNat < 127 then String.ofList [c]
        else "\\x" ++ String.ofList (Nat.toDigits 16 c.toNat))
  | tooDeep => "Max string recursion exceeded"
  | numberTooLong => "Too many decimal digits in format string"
  | noPosition index =>
    "Replacement index " ++ toString index ++ " out of range for positional args tuple"
  | noName name => Text.quoted name
  | missingBracket => "Missing ']' in format string"
  | afterBracket => "Only '.' or '[' may follow ']' in format field specifier"
  | emptyPart => "Empty attribute in format string"
  | noPart kind name => "'" ++ kind ++ "' object has no attribute '" ++ name ++ "'"
  | noPartOfKind kind name => "type object '" ++ kind ++ "' has no attribute '" ++ name ++ "'"
  | missingPart name => name
  | noCharacter => "string index out of range"
  | noItem => "tuple index out of range"
  | characterNotNumbered => "string indices must be integers, not 'str'"
  | itemNotNumbered => "tuple indices must be integers or slices, not str"
  | noEntry shownKey => shownKey
  | notIndexed kind => "'" ++ kind ++ "' object is not subscriptable"
  | kindNotIndexed kind => "type '" ++ kind ++ "' is not subscriptable"
  | indexedAgain shown => shown ++ " is not a generic class"
  | noLayout kind => "unsupported format string passed to " ++ kind ++ ".__format__"
  | invalidSpec spec kind =>
    "Invalid format specifier '" ++ spec ++ "' for object of type '" ++ kind ++ "'"
  | missingPrecision => "Format specifier missing precision"
  | bothGroupings => "Cannot specify both ',' and '_'."
  | groupingWith grouping type =>
    "Cannot specify '" ++ String.ofList [grouping] ++ "' with '" ++ shownChar type ++ "'."
  | unknownForm type kind =>
    "Unknown format code '" ++ shownChar type ++ "' for object of type '" ++ kind ++ "'"
  | signNotAllowed sign =>
    (if sign = ' ' then "Space" else "Sign") ++ " not allowed in string format specifier"
  | zeroNotAllowed => "Negative zero coercion (z) not allowed in string format specifier"
  | alternateNotAllowed => "Alternate form (#) not allowed in string format specifier"
  | innerAlignment => "'=' alignment not allowed in string format specifier"
  | precisionNotAllowed => "Precision not allowed in integer format specifier"
  | precisionTooLong => "precision too big"
  | zeroNotWhole => "Negative zero coercion (z) not allowed in integer format specifier"
  | signWithCharacter => "Sign not allowed with integer format specifier 'c'"
  | alternateWithCharacter => "Alternate form (#) not allowed with integer format specifier 'c'"
  | noSuchCharacter => "%c arg not in range(0x110000)"

end TargetAssembly.Template

namespace TargetAssembly.Template

/-! ## Numbers -/

/-- The largest number that a template can hold. -/
def maxNumber : Nat := Nat.pow 2 63 - 1

/-- Read on a number by the digits that a text starts with.  The result holds the number, how
many digits it has, and the text behind it. -/
def digitsFrom (n count : Nat) : List Char → Except Failure (Nat × Nat × List Char)
  | [] => .ok (n, count, [])
  | c :: rest =>
    match Text.digitValue? c with
    | none => .ok (n, count, c :: rest)
    | some d =>
      if (maxNumber - d) / 10 < n then .error .numberTooLong
      else digitsFrom (10 * n + d) (count + 1) rest

/-- The number that a whole text is, if it is one. -/
def number? (cs : List Char) : Except Failure (Option Nat) := do
  let (n, count, rest) ← digitsFrom 0 0 cs
  return if count = 0 || !rest.isEmpty then none else some n

/-! ## Layout -/

/-- How a text or a number is laid out. -/
structure Spec where
  /-- What fills the room beside the text. -/
  fill : Char := ' '
  /-- Where the text stands in its room. -/
  align : Char := '<'
  /-- The sign that is asked for. -/
  sign : Option Char := none
  /-- Whether the sign of zero is to be dropped. -/
  dropZeroSign : Bool := false
  /-- Whether the alternate form is asked for. -/
  alternate : Bool := false
  /-- The least length. -/
  width : Option Nat := none
  /-- What groups digits. -/
  grouping : Option Char := none
  /-- The greatest length. -/
  precision : Option Nat := none
  /-- The form. -/
  type : Char := 's'

/-- Whether a character says where the text stands. -/
def isAlign (c : Char) : Bool := c == '<' || c == '>' || c == '=' || c == '^'

/-- Take a given character off the front of a text. -/
def takeChar (c : Char) (cs : List Char) : Bool × List Char :=
  if cs.head? = some c then (true, cs.drop 1) else (false, cs)

/-- The fill and the alignment that a text starts with, and whether each was given. -/
def alignment (cs : List Char) : Option Char × Option Char × List Char :=
  match cs with
  | f :: a :: rest =>
    if isAlign a then (some f, some a, rest)
    else if isAlign f then (none, some f, a :: rest) else (none, none, cs)
  | [a] => if isAlign a then (none, some a, []) else (none, none, cs)
  | [] => (none, none, cs)

/-- The sign that a text starts with. -/
def signOf (cs : List Char) : Option Char × List Char :=
  match cs with
  | c :: rest => if c = ' ' ∨ c = '+' ∨ c = '-' then (some c, rest) else (none, cs)
  | [] => (none, cs)

/-- The grouping that a text starts with. -/
def groupingOf (cs : List Char) : Except Failure (Option Char × List Char) :=
  let (comma, cs) := takeChar ',' cs
  let (underscore, cs) := takeChar '_' cs
  if comma && underscore then .error .bothGroupings
  else if underscore && cs.head? = some ',' then .error .bothGroupings
  else .ok (if comma then some ',' else if underscore then some '_' else none, cs)

/-- The precision that a text starts with. -/
def precisionOf (cs : List Char) : Except Failure (Option Nat × List Char) :=
  match takeChar '.' cs with
  | (false, cs) => .ok (none, cs)
  | (true, cs) => do
    let (n, count, rest) ← digitsFrom 0 0 cs
    if count = 0 then throw .missingPrecision
    return (some n, rest)

/-- Whether digits of a form can be grouped by a character.  A null character is no form, and is
let through here. -/
def canGroup (grouping type : Char) : Bool :=
  "defgEG%F\x00".toList.contains type || (grouping == '_' && "boxX".toList.contains type)

/-- Read how a value of a kind, which may be a number, is to be laid out. -/
def specOf (kind : String) (numeric : Bool) (spec : List Char) : Except Failure Spec := do
  let (fill, align, cs) := alignment spec
  let (sign, cs) := signOf cs
  let (dropZeroSign, cs) := takeChar 'z' cs
  let (alternate, cs) := takeChar '#' cs
  let (zero, cs) := if fill.isNone then takeChar '0' cs else (false, cs)
  let (width, count, cs) ← digitsFrom 0 0 cs
  let (grouping, cs) ← groupingOf cs
  let (precision, cs) ← precisionOf cs
  let type ← match cs with
    | [] => pure (if numeric then 'd' else 's')
    | [c] => pure c
    | _ => throw (.invalidSpec (String.ofList spec) kind)
  match grouping with
  | some g => if !canGroup g type then throw (.groupingWith g type)
  | none => pure ()
  let usual := if numeric then (if zero then '=' else '>') else '<'
  return { fill := fill.getD (if zero then '0' else ' '), align := align.getD usual, sign,
           dropZeroSign, alternate, width := if count = 0 then none else some width, grouping,
           precision, type }

/-- A text in the room that a layout gives it. -/
def Spec.place (s : Spec) (cs : List Char) : List Char :=
  let shown := match s.precision with
    | some p => cs.take p
    | none => cs
  let room := s.width.getD 0 - shown.length
  let left := if s.align = '>' then room else if s.align = '^' then room / 2 else 0
  List.replicate left s.fill ++ shown ++ List.replicate (room - left) s.fill

/-- A text laid out as what stands behind a colon asks for. -/
def layOut (spec cs : List Char) : Except Failure (List Char) :=
  if spec.isEmpty then .ok cs
  else do
    let s ← specOf "str" false spec
    if s.type ≠ 's' then throw (.unknownForm s.type "str")
    match s.sign with
    | some sign => throw (.signNotAllowed sign)
    | none => pure ()
    if s.dropZeroSign then throw .zeroNotAllowed
    if s.alternate then throw .alternateNotAllowed
    if s.align = '=' then throw .innerAlignment
    return s.place cs

end TargetAssembly.Template
