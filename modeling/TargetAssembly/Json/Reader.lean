import TargetAssembly.Decimal.Numeral
import TargetAssembly.Json.Basic
import TargetAssembly.Text.Character

/-!
# Reading JSON

`Json.read` reads one value from a text.  Blanks may stand around every part; besides the numbers
of the format, `NaN`, `Infinity` and `-Infinity` are read.  A name that an object mentions twice
keeps its first place and takes its last value.  Where the text is malformed, the error names the
first place at which it cannot be read on.  A whole number may have at most `Decimal.maxDigits`
digits; a longer one ends the reading at once.
-/

namespace TargetAssembly.Json

open Text (Point)

/-! ## Errors -/

/-- What is wrong with a malformed text. -/
inductive Fault where
  /-- The text starts with a byte order mark. -/
  | byteOrderMark
  /-- No value stands where one has to. -/
  | expectingValue
  /-- No name stands where one has to. -/
  | expectingName
  /-- No colon follows a name. -/
  | expectingColon
  /-- Neither a comma nor a closing bracket follows a value. -/
  | expectingComma
  /-- A control character stands in a text. -/
  | controlCharacter
  /-- A text does not end. -/
  | unterminatedText
  /-- A backslash precedes a character that it cannot. -/
  | badEscape
  /-- A backslash and the letter `u` precede something else than four hexadecimal digits. -/
  | badNumberEscape
  /-- Something follows the value. -/
  | extraData
deriving DecidableEq, Repr

/-- The wording of a fault. -/
def Fault.wording : Fault → String
  | byteOrderMark => "Unexpected UTF-8 BOM (decode using utf-8-sig)"
  | expectingValue => "Expecting value"
  | expectingName => "Expecting property name enclosed in double quotes"
  | expectingColon => "Expecting ':' delimiter"
  | expectingComma => "Expecting ',' delimiter"
  | controlCharacter => "Invalid control character at"
  | unterminatedText => "Unterminated string starting at"
  | badEscape => "Invalid \\escape"
  | badNumberEscape => "Invalid \\uXXXX escape"
  | extraData => "Extra data"

/-- Why a text was not read. -/
inductive ReadError where
  /-- The text is malformed at a position. -/
  | malformed (fault : Fault) (position : Nat)
  /-- A whole number has too many digits. -/
  | tooManyDigits (count : Nat)
deriving DecidableEq, Repr

/-- The line of a position, from one on; only a line feed ends a line. -/
def lineOf (raw : List Char) (position : Nat) : Nat :=
  (raw.take position).count '\n' + 1

/-- The column of a position, from one on. -/
def columnOf (raw : List Char) (position : Nat) : Nat :=
  ((raw.take position).reverse.takeWhile (· != '\n')).length + 1

/-- A fault with the place at which it was found. -/
def Fault.located (fault : Fault) (raw : List Char) (position : Nat) : String :=
  fault.wording ++ ": line " ++ toString (lineOf raw position) ++ " column " ++
    toString (columnOf raw position) ++ " (char " ++ toString position ++ ")"

/-! ## Places in a text -/

/-- A place in a text: how many characters stand before it, and those that follow. -/
structure Cursor where
  /-- The number of characters before the place. -/
  position : Nat
  /-- The characters after it. -/
  rest : List Char

/-- Whether a character is a blank. -/
def isBlank (c : Char) : Bool := c == ' ' || c == '\t' || c == '\n' || c == '\r'

/-- The place after some characters that satisfy `p`. -/
def Cursor.skip (p : Char → Bool) (c : Cursor) : Cursor :=
  ⟨c.position + (c.rest.takeWhile p).length, c.rest.dropWhile p⟩

/-- The place after the blanks. -/
def Cursor.skipBlanks (c : Cursor) : Cursor := c.skip isBlank

/-- A malformed text. -/
def fail {α : Type} (fault : Fault) (position : Nat) : Except ReadError α :=
  .error (.malformed fault position)

/-! ## Texts -/

/-- The character that a letter behind a backslash stands for. -/
def letterEscape? : Char → Option Char
  | '\x22' => some '\x22'
  | '\\' => some '\\'
  | '/' => some '/'
  | 'b' => some '\x08'
  | 'f' => some '\x0c'
  | 'n' => some '\n'
  | 'r' => some '\r'
  | 't' => some '\t'
  | _ => none

/-- The value of four hexadecimal digits. -/
def hexFour? (a b c d : Char) : Option Nat := do
  let a ← Text.Hex.digit? a
  let b ← Text.Hex.digit? b
  let c ← Text.Hex.digit? c
  let d ← Text.Hex.digit? d
  return ((a * 16 + b) * 16 + c) * 16 + d

/-- Whether a code is the first half of a surrogate pair. -/
def isHighHalf (code : Nat) : Bool := 0xd800 ≤ code && code ≤ 0xdbff

/-- Whether a code is the second half of a surrogate pair. -/
def isLowHalf (code : Nat) : Bool := 0xdc00 ≤ code && code ≤ 0xdfff

/-- The position of a text that a code stands for. -/
def pointOf (code : Nat) : Point :=
  if isHighHalf code || isLowHalf code then .half code else .char (Char.ofNat code)

/-- The character that a surrogate pair stands for. -/
def joinHalves (high low : Nat) : Char :=
  Char.ofNat (0x10000 + (high - 0xd800) * 0x400 + (low - 0xdc00))

/-- Two halves of a surrogate pair, one after the other, are one character. -/
def joinPairs : List Point → List Point
  | [] => []
  | .half high :: .half low :: rest =>
    if isHighHalf high && isLowHalf low then .char (joinHalves high low) :: joinPairs rest
    else .half high :: joinPairs (.half low :: rest)
  | p :: rest => p :: joinPairs rest

/-- What is read of a text, put before what is read after it. -/
def before (p : Point) (r : Except ReadError (List Point × Cursor)) :
    Except ReadError (List Point × Cursor) :=
  r.map fun (ps, c) => (p :: ps, c)

/-- Read the rest of a text whose opening quote stands at `start`; surrogate pairs are still in
halves. -/
def halvesAt (start : Nat) : Nat → List Char → Except ReadError (List Point × Cursor)
  | _, [] => fail .unterminatedText start
  | pos, '\x22' :: rest => .ok ([], ⟨pos + 1, rest⟩)
  | _, ['\\'] => fail .unterminatedText start
  | pos, '\\' :: 'u' :: a :: b :: c :: d :: rest =>
    if rest.isEmpty then fail .badNumberEscape (pos + 1)
    else match hexFour? a b c d with
      | some code => before (pointOf code) (halvesAt start (pos + 6) rest)
      | none => fail .badNumberEscape (pos + 1)
  | pos, '\\' :: 'u' :: _ => fail .badNumberEscape (pos + 1)
  | pos, '\\' :: c :: rest =>
    match letterEscape? c with
    | some e => before (.char e) (halvesAt start (pos + 2) rest)
    | none => fail .badEscape pos
  | pos, c :: rest =>
    if c.toNat < 0x20 then fail .controlCharacter pos
    else before (.char c) (halvesAt start (pos + 1) rest)

/-- Read the rest of a text whose opening quote stands at `start`. -/
def textAt (start : Nat) (pos : Nat) (cs : List Char) : Except ReadError (List Point × Cursor) :=
  (halvesAt start pos cs).map fun (ps, c) => (joinPairs ps, c)

/-! ## Numbers -/

/-- The digits before the point: a single zero, or digits that start with another one. -/
def wholeDigits : List Char → List Char
  | [] => []
  | c :: rest =>
    if c = '0' then ['0']
    else if c.isDigit then c :: rest.takeWhile Char.isDigit
    else []

/-- The digits after a point, if the text goes on with a point and a digit. -/
def fractionDigits : List Char → List Char
  | '.' :: rest => rest.takeWhile Char.isDigit
  | _ => []

/-- The sign and the digits of an exponent. -/
structure Exponent where
  /-- How many characters the exponent takes. -/
  length : Nat
  /-- The exponent. -/
  value : Int

/-- The exponent that a text goes on with, if any: the letter `e`, perhaps a sign, and digits. -/
def exponent? : List Char → Option Exponent
  | e :: rest =>
    if e = 'e' ∨ e = 'E' then
      let signed := rest.head? == some '-' || rest.head? == some '+'
      let digits := (if signed then rest.drop 1 else rest).takeWhile Char.isDigit
      if digits.isEmpty then none
      else
        let n : Int := Text.digitsValue digits
        some ⟨1 + (if signed then 1 else 0) + digits.length,
          if rest.head? == some '-' then -n else n⟩
    else none
  | [] => none

/-- Read a number. -/
def numberAt (c : Cursor) : Except ReadError (Json × Cursor) :=
  let negative := c.rest.head? == some '-'
  let unsigned := if negative then c.rest.drop 1 else c.rest
  let whole := wholeDigits unsigned
  if whole.isEmpty then fail .expectingValue c.position
  else
    let afterWhole := unsigned.drop whole.length
    let fraction := fractionDigits afterWhole
    let fractionLength := if fraction.isEmpty then 0 else fraction.length + 1
    let afterFraction := afterWhole.drop fractionLength
    let exponent := exponent? afterFraction
    let exponentLength := (exponent.map Exponent.length).getD 0
    let length := (if negative then 1 else 0) + whole.length + fractionLength + exponentLength
    let next : Cursor := ⟨c.position + length, afterFraction.drop exponentLength⟩
    if fraction.isEmpty && exponent.isNone then
      if Decimal.maxDigits < whole.length then .error (.tooManyDigits whole.length)
      else
        let n : Int := Text.digitsValue whole
        .ok (.int (if negative then -n else n), next)
    else
      let power := (exponent.map Exponent.value).getD 0 - fraction.length
      .ok (.float (Binary64.ofDecimal negative (Text.digitsValue (whole ++ fraction)) power), next)

/-! ## Values -/

/-- The values that are written as words. -/
def words : List (List Char × Json) := [
  ("null".toList, null), ("true".toList, bool true), ("false".toList, bool false),
  ("NaN".toList, float .nan), ("Infinity".toList, float (.infinity false)),
  ("-Infinity".toList, float (.infinity true))]

/-- The word that a text goes on with, if any. -/
def word? (cs : List Char) : Option (List Char × Json) :=
  words.find? fun w => w.1.isPrefixOf cs

mutual

/-- Read a value.  `fuel` bounds the steps; twice the length of the text is enough. -/
def valueAt : (fuel : Nat) → Cursor → Except ReadError (Json × Cursor)
  | 0, c => fail .expectingValue c.position
  | fuel + 1, c =>
    match c.rest with
    | '\x22' :: rest => (textAt c.position (c.position + 1) rest).map fun (s, c) => (.text s, c)
    | '[' :: rest =>
      let c := Cursor.skipBlanks ⟨c.position + 1, rest⟩
      match c.rest with
      | ']' :: rest => .ok (.list [], ⟨c.position + 1, rest⟩)
      | _ => (itemsAt fuel c).map fun (items, c) => (.list items, c)
    | '\x7b' :: rest =>
      let c := Cursor.skipBlanks ⟨c.position + 1, rest⟩
      match c.rest with
      | '\x7d' :: rest => .ok (.object [], ⟨c.position + 1, rest⟩)
      | _ => (membersAt fuel c).map fun (members, c) => (.object (Keyed.ofList members), c)
    | _ =>
      match word? c.rest with
      | some w => .ok (w.2, ⟨c.position + w.1.length, c.rest.drop w.1.length⟩)
      | none => numberAt c

/-- Read the items of a list, at least one, up to its closing bracket. -/
def itemsAt : (fuel : Nat) → Cursor → Except ReadError (List Json × Cursor)
  | 0, c => fail .expectingValue c.position
  | fuel + 1, c => do
    let (item, c) ← valueAt fuel c
    let c := c.skipBlanks
    match c.rest with
    | ']' :: rest => return ([item], ⟨c.position + 1, rest⟩)
    | ',' :: rest =>
      let (items, c) ← itemsAt fuel (Cursor.skipBlanks ⟨c.position + 1, rest⟩)
      return (item :: items, c)
    | _ => fail .expectingComma c.position

/-- Read the members of an object, at least one, up to its closing brace. -/
def membersAt : (fuel : Nat) → Cursor → Except ReadError (List (List Point × Json) × Cursor)
  | 0, c => fail .expectingName c.position
  | fuel + 1, c =>
    match c.rest with
    | '\x22' :: rest => do
      let (name, c) ← textAt c.position (c.position + 1) rest
      let c := c.skipBlanks
      match c.rest with
      | ':' :: rest =>
        let (value, c) ← valueAt fuel (Cursor.skipBlanks ⟨c.position + 1, rest⟩)
        let c := c.skipBlanks
        match c.rest with
        | '\x7d' :: rest => return ([(name, value)], ⟨c.position + 1, rest⟩)
        | ',' :: rest =>
          let (members, c) ← membersAt fuel (Cursor.skipBlanks ⟨c.position + 1, rest⟩)
          return ((name, value) :: members, c)
        | _ => fail .expectingComma c.position
      | _ => fail .expectingColon c.position
    | _ => fail .expectingName c.position

end

/-- Read one value from a text. -/
def read (raw : List Char) : Except ReadError Json :=
  if raw.head? = some '\ufeff' then fail .byteOrderMark 0
  else do
    let (value, c) ← valueAt (2 * raw.length + 2) (Cursor.skipBlanks ⟨0, raw⟩)
    let c := c.skipBlanks
    if c.rest.isEmpty then return value else fail .extraData c.position

end TargetAssembly.Json
