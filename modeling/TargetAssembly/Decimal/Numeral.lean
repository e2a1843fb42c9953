import TargetAssembly.Binary64
import TargetAssembly.Text.Character

/-!
# Reading numerals

A numeral stands alone in a text, with blanks around it allowed.  Its digits may be those of any
script, and an underscore may stand between two of them.  `wholeOfText` reads a numeral as a whole
number and `Binary64.ofText?` as a floating point number; the latter may have a point, an exponent
and the names of what no digits can say.
-/

namespace TargetAssembly

namespace Decimal

/-! ## The bare numeral -/

/-- A blank or a digit of any script as that of ASCII.  A question mark, which no numeral has,
stands for everything else beyond ASCII. -/
def asciiOf (c : Char) : Char :=
  if c.toNat < 128 then c
  else if Text.isBlank c then ' '
  else match Text.digitValue? c with
    | some d => Nat.digitChar d
    | none => '?'

/-- A text without the blanks at its ends. -/
def trimmed (cs : List Char) : List Char :=
  ((cs.dropWhile Text.isBlank).reverse.dropWhile Text.isBlank).reverse

/-- A text without its underscores, of which each has to stand between two digits.  The flag tells
whether a digit came last. -/
def joined : (afterDigit : Bool) → List Char → Option (List Char)
  | _, [] => some []
  | afterDigit, c :: rest =>
    if c = '_' then
      if afterDigit && rest.head?.any Char.isDigit then joined false rest else none
    else (joined c.isDigit rest).map (c :: ·)

/-- A sign and what follows it. -/
def signOf : List Char → Bool × List Char
  | '-' :: rest => (true, rest)
  | '+' :: rest => (false, rest)
  | cs => (false, cs)

/-- The sign of a numeral and what follows it, in ASCII and without blanks and underscores. -/
def bare? (s : String) : Option (Bool × List Char) :=
  (joined false (trimmed (s.toList.map asciiOf))).map signOf

/-! ## Whole numbers -/

/-- The most digits of a whole number that is read or written. -/
def maxDigits : Nat := 4300

/-- The message that a whole number has too many digits, with what is said of their count. -/
def limitMessage (found : String) : String :=
  "Exceeds the limit (" ++ toString maxDigits ++ " digits) for integer string conversion" ++
    found ++ "; use sys.set_int_max_str_digits() to increase the limit"

/-- The message that a whole number that is read has too many digits. -/
def tooManyDigitsMessage (count : Nat) : String :=
  limitMessage (": value has " ++ toString count ++ " digits")

/-- Why a text is not read as a whole number. -/
inductive WholeFault where
  /-- It is no numeral of a whole number. -/
  | notWhole
  /-- It has too many digits. -/
  | tooManyDigits (count : Nat)
deriving DecidableEq, Repr

/-- The whole number of a text. -/
def wholeOfText (s : String) : Except WholeFault Int :=
  match bare? s with
  | none => .error .notWhole
  | some (negative, cs) =>
    let digits := cs.takeWhile Char.isDigit
    if maxDigits < digits.length then .error (.tooManyDigits digits.length)
    else if digits.isEmpty || digits.length < cs.length then .error .notWhole
    else
      let n : Int := Text.digitsValue digits
      .ok (if negative then -n else n)

/-! ## Floating point numbers -/

/-- The whole number that an exponent is. -/
def exponent? (cs : List Char) : Option Int :=
  let (negative, digits) := signOf cs
  if digits.isEmpty || !digits.all Char.isDigit then none
  else
    let n : Int := Text.digitsValue digits
    some (if negative then -n else n)

/-- The number of digits with at most one point between or beside them, and perhaps an exponent. -/
def unsigned? (negative : Bool) (cs : List Char) : Option Binary64 := do
  let (whole, rest) := cs.span Char.isDigit
  let (places, rest) := match rest with
    | '.' :: rest => rest.span Char.isDigit
    | rest => ([], rest)
  guard (!(whole.isEmpty && places.isEmpty))
  let exponent ← match rest with
    | [] => some 0
    | e :: rest => if e = 'e' ∨ e = 'E' then exponent? rest else none
  return .ofDecimal negative (Text.digitsValue (whole ++ places)) (exponent - places.length)

end Decimal

/-- The number nearest to what a text says. -/
def Binary64.ofText? (s : String) : Option Binary64 := do
  let (negative, cs) ← Decimal.bare? s
  match String.ofList (cs.map Char.toLower) with
  | "nan" => return .nan
  | "inf" | "infinity" => return .infinity negative
  | _ => Decimal.unsigned? negative cs

end TargetAssembly
