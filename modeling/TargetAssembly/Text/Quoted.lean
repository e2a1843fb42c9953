import TargetAssembly.Text.Character

/-!
# Quoted texts and byte strings

A text that is written with escapes can name half of a surrogate pair without the other half, so a
text is quoted position by position.  A quoted text stands between single quotes, or between double
quotes if it holds a single quote and no double quote.  The backslash and the quote in use are
written with a backslash, and so are the line feed, the carriage return and the tabulator.  A code
point that is not printable is written by its number in two, four or eight hexadecimal digits.  A
byte string follows the same rules behind the letter `b`, with the visible characters of ASCII
standing for themselves.
-/

namespace TargetAssembly.Text

/-!
## Positions of an escaped text

A lone half of a surrogate pair is no character, yet it takes a position of the text.  `Point` is
one position: a character or a lone half.  `Point.text?` gives the text back if every position is a
character.
-/

/-- One position of a text that was written with escapes. -/
inductive Point where
  /-- A character. -/
  | char (c : Char)
  /-- Half of a surrogate pair, by its code, whose other half is missing. -/
  | half (code : Nat)
deriving DecidableEq, Repr

namespace Point

/-- The code point at a position. -/
def code : Point → Nat
  | char c => c.toNat
  | half n => n

/-- Whether a position holds a given character. -/
def isChar (c : Char) (p : Point) : Bool := p == char c

/-- The positions of a text. -/
def ofChars (cs : List Char) : List Point := cs.map char

/-- The positions of a string. -/
def ofString (s : String) : List Point := ofChars s.toList

/-- The character at a position, unless it is a lone half. -/
def char? : Point → Option Char
  | char c => some c
  | half _ => none

/-- The text at the given positions, if each of them is a character. -/
def text? (ps : List Point) : Option String := (ps.mapM char?).map String.ofList

@[simp] theorem text?_ofString (s : String) : text? (ofString s) = some s := by
  have chars (cs : List Char) : (cs.map char).mapM char? = some cs := by
    induction cs with
    | nil => rfl
    | cons c cs ih => simp [char?, ih]
  rw [text?, ofString, ofChars, chars, Option.map_some, String.ofList_toList]

theorem ofString_injective : Function.Injective ofString := by
  intro s t same
  have texts : some s = some t := by rw [← text?_ofString s, same, text?_ofString]
  exact Option.some.inj texts

end Point

/-! ## Quotes -/

/-- The hexadecimal digit of a number below sixteen. -/
def hexDigit (n : Nat) : Char := Nat.digitChar n

/-- A number in a given count of hexadecimal digits, the most significant first. -/
def hexDigits : (width : Nat) → Nat → List Char
  | 0, _ => []
  | width + 1, n => hexDigits width (n / 16) ++ [hexDigit (n % 16)]

@[simp] theorem length_hexDigits (width n : Nat) : (hexDigits width n).length = width := by
  induction width generalizing n with
  | zero => rfl
  | succ w ih => simp [hexDigits, ih]

/-- The quote for a text with the given code points. -/
def quoteMark (codes : List Nat) : Char :=
  if codes.contains 39 && !codes.contains 34 then '\x22' else '\x27'

/-- A code point by its number: two digits below 256, four below 65536, else eight. -/
def numberEscape (code : Nat) : List Char :=
  if code < 0x100 then '\\' :: 'x' :: hexDigits 2 code
  else if code < 0x10000 then '\\' :: 'u' :: hexDigits 4 code
  else '\\' :: 'U' :: hexDigits 8 code

/-- One code point inside quotes.  `shown` says which code points may stand for themselves. -/
def quotedPoint (mark : Char) (shown : Nat → Bool) (p : Point) : List Char :=
  match p with
  | .char c =>
    if c = mark ∨ c = '\\' then ['\\', c]
    else if c = '\n' then ['\\', 'n']
    else if c = '\r' then ['\\', 'r']
    else if c = '\t' then ['\\', 't']
    else if shown c.toNat then [c]
    else numberEscape c.toNat
  | .half code => numberEscape code

/-- A text in quotes, with the code points that `shown` accepts standing for themselves. -/
def quotedWith (shown : Nat → Bool) (ps : List Point) : List Char :=
  let mark := quoteMark (ps.map Point.code)
  mark :: ps.flatMap (quotedPoint mark shown) ++ [mark]

/-- A text in quotes. -/
def quotedPoints (ps : List Point) : String :=
  String.ofList (quotedWith isPrintable ps)

/-- A string in quotes. -/
def quoted (s : String) : String := quotedPoints (Point.ofString s)

/-- A string in quotes, written in ASCII alone. -/
def quotedAscii (s : String) : String :=
  String.ofList (quotedWith (fun code => 0x20 ≤ code && code ≤ 0x7e) (Point.ofString s))

/-- One byte inside quotes. -/
def quotedByte (mark : Char) (b : UInt8) : List Char :=
  if b.toNat < 0x80 then
    quotedPoint mark (fun code => 0x20 ≤ code && code ≤ 0x7e) (.char (Char.ofNat b.toNat))
  else numberEscape b.toNat

/-- A byte string in quotes. -/
def quotedBytes (bs : List UInt8) : String :=
  let mark := quoteMark (bs.map UInt8.toNat)
  String.ofList ('b' :: mark :: bs.flatMap (quotedByte mark) ++ [mark])

end TargetAssembly.Text
