import TargetAssembly.Binary64

/-!
# The shortest decimal that reads back

Among the decimals that read back as a given number, those with the fewest digits are taken, and
of these the one nearest to the number.  A decimal with `n` digits is a point of the grid of the
multiples of a power of ten, and if a point of the grid reads back, so does one of the two
neighbours of the number on that grid.  Seventeen digits always suffice.
-/

namespace TargetAssembly.Decimal

/-- A whole number times a power of ten. -/
structure Scientific where
  /-- The digits, as one number. -/
  digits : Nat
  /-- The power of ten. -/
  exponent : Int
deriving DecidableEq, Repr

namespace Scientific

/-- The decimal as a ratio. -/
def ratio (d : Scientific) : Nat × Nat :=
  let (up, down) := powerRatio 10 d.exponent
  (d.digits * up, down)

/-- The same decimal without trailing zeros; `fuel` bounds how many are taken off. -/
def trim : (fuel : Nat) → Scientific → Scientific
  | 0, d => d
  | fuel + 1, d =>
    if d.digits ≠ 0 ∧ d.digits % 10 = 0 then trim fuel ⟨d.digits / 10, d.exponent + 1⟩ else d

end Scientific

/-- The order of two ratios with positive denominators. -/
def ratioLe (a b : Nat × Nat) : Bool := a.1 * b.2 ≤ b.1 * a.2

/-- The distance of two ratios with positive denominators. -/
def ratioDistance (a b : Nat × Nat) : Nat × Nat :=
  ((a.1 * b.2 - b.1 * a.2) + (b.1 * a.2 - a.1 * b.2), a.2 * b.2)

/-- The numbers that round to `mantissa * 2 ^ scale`: they lie between two ratios, which themselves
belong to them if the mantissa is even. -/
structure Neighbourhood where
  /-- The number itself. -/
  centre : Nat × Nat
  /-- Half way to the next lower number. -/
  low : Nat × Nat
  /-- Half way to the next higher number. -/
  high : Nat × Nat
  /-- Whether the ends round to the number too. -/
  closed : Bool

/-- The numbers that round to a finite positive number. -/
def Neighbourhood.of (x : Binary64) : Neighbourhood :=
  let (up, down) := powerRatio 2 (x.scale - 2)
  let narrow := x.fraction = 0 ∧ 1 < x.exponentField
  { centre := (4 * x.mantissa * up, down)
    low := ((4 * x.mantissa - if narrow then 1 else 2) * up, down)
    high := ((4 * x.mantissa + 2) * up, down)
    closed := x.mantissa % 2 == 0 }

/-- Whether a ratio rounds to the number. -/
def Neighbourhood.contains (h : Neighbourhood) (r : Nat × Nat) : Bool :=
  if h.closed then ratioLe h.low r && ratioLe r h.high
  else !ratioLe r h.low && !ratioLe h.high r

/-- The number of digits that a positive ratio of at least `10 ^ -400` has before its point; it is
negative if zeros follow the point. -/
def leadingPlace (r : Nat × Nat) : Int :=
  (Nat.toDigits 10 (r.1 * Nat.pow 10 400 / r.2)).length - 400

/-- The better of the two neighbours of the number on the grid of `10 ^ exponent`, if one reads
back: the nearer one, and of two equally near ones the even one. -/
def onGrid (h : Neighbourhood) (exponent : Int) : Option Scientific :=
  let (up, down) := powerRatio 10 exponent
  let floor := h.centre.1 * down / (h.centre.2 * up)
  let below : Scientific := ⟨floor, exponent⟩
  let above : Scientific := ⟨floor + 1, exponent⟩
  match h.contains below.ratio, h.contains above.ratio with
  | false, false => none
  | true, false => some below
  | false, true => some above
  | true, true =>
    let d := ratioDistance below.ratio h.centre
    let u := ratioDistance above.ratio h.centre
    if ratioLe d u && (!ratioLe u d || floor % 2 == 0) then some below else some above

/-- The first grid, from coarse to fine, on which a neighbour of the number reads back. -/
def firstOnGrid (h : Neighbourhood) (place : Int) : (digits : List Nat) → Option Scientific
  | [] => none
  | n :: ns =>
    match onGrid h (place - n) with
    | some d => some d
    | none => firstOnGrid h place ns

/-- The shortest decimal that reads back as a finite positive number, without trailing zeros. -/
def shortest (x : Binary64) : Scientific :=
  let h := Neighbourhood.of x
  let place := leadingPlace h.centre
  let found := (firstOnGrid h place (List.range' 1 17)).getD ⟨0, 0⟩
  found.trim 17

end TargetAssembly.Decimal

namespace TargetAssembly.Binary64

/-!
## Writing a number

A number is written with the fewest digits that read back.  Numbers from `0.0001` to below
`10 ^ 16` are written positionally, with at least one digit after the point; all others have one
digit before the point and an exponent of at least two digits under a sign.
-/

open Decimal

/-- Where the point stands and how the exponent is written. -/
structure Layout where
  /-- The most digits before the point that are written positionally. -/
  mostPlaces : Int
  /-- The most zeros after the point that are written positionally. -/
  mostZeros : Int
  /-- The least count of digits of an exponent. -/
  exponentDigits : Nat

/-- Sixteen digits before the point, three zeros after it, two digits of exponent. -/
def layout : Layout := ⟨16, 3, 2⟩

/-- The digits of a natural number. -/
def digitsOf (n : Nat) : List Char := Nat.toDigits 10 n

/-- Digits with the point after the given count of them. -/
def positional (digits : List Char) (place : Int) : List Char :=
  if place ≤ 0 then '0' :: '.' :: List.replicate (-place).toNat '0' ++ digits
  else if digits.length ≤ place.toNat then
    digits ++ List.replicate (place.toNat - digits.length) '0' ++ ['.', '0']
  else digits.take place.toNat ++ '.' :: digits.drop place.toNat

/-- An exponent under its sign, with zeros before it up to the least count of digits. -/
def exponentText (width : Nat) (exponent : Int) : List Char :=
  let digits := digitsOf exponent.natAbs
  (if exponent < 0 then '-' else '+') :: List.replicate (width - digits.length) '0' ++ digits

/-- Digits with one of them before the point, and an exponent. -/
def withExponent (width : Nat) (digits : List Char) (exponent : Int) : List Char :=
  let fraction := digits.drop 1
  digits.take 1 ++ (if fraction.isEmpty then [] else '.' :: fraction) ++
    'e' :: exponentText width exponent

/-- A decimal, positionally or with an exponent as the layout asks. -/
def Layout.write (l : Layout) (d : Scientific) : List Char :=
  let digits := digitsOf d.digits
  let place := d.exponent + digits.length
  if -l.mostZeros ≤ place ∧ place ≤ l.mostPlaces then positional digits place
  else withExponent l.exponentDigits digits (place - 1)

/-- The finite magnitude of a number. -/
def magnitudeText (x : Binary64) : List Char :=
  if x.mantissa = 0 then ['0', '.', '0'] else layout.write (shortest x)

/-- A number with `infinite` and `notANumber` for what no digits can say. -/
def textWith (infinite notANumber : String) (x : Binary64) : String :=
  if x.isNaN then notANumber
  else
    let magnitude := if x.isInfinite then infinite else String.ofList x.magnitudeText
    if x.negative then "-" ++ magnitude else magnitude

/-- The text of a number. -/
def text (x : Binary64) : String := x.textWith "inf" "nan"

end TargetAssembly.Binary64
