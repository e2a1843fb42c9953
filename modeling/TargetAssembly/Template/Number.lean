import TargetAssembly.Binary64
import TargetAssembly.Decimal.Shortest
import TargetAssembly.Template.Layout

/-!
# Layout of a number in its room

A number is laid out as a whole number to some base, as the character of that number, or as a
floating point number.  Its digits can be grouped, and the room in front of them can be filled with
zeros, which are grouped along.
-/

namespace TargetAssembly.Template

/-! ## Pieces -/

/-- A number in pieces. -/
structure Figure where
  /-- What stands in front of the digits and belongs to them. -/
  lead : List Char := []
  /-- The digits that can be grouped. -/
  whole : List Char := []
  /-- What stands behind these digits. -/
  rest : List Char := []

/-- Digits from the last one up, in groups of a size, with zeros behind them until at least the
given number of characters is reached.  `fuel` bounds the groups. -/
def groupedUp (size : Nat) (separator : Char) : (fuel : Nat) → (least : Int) → List Char → List Char
  | 0, _, ds => ds
  | fuel + 1, least, ds =>
    let count := min size (max (max ds.length least.toNat) 1)
    let group := ds.take count ++ List.replicate (count - ds.length) '0'
    let rest := ds.drop count
    if rest.isEmpty && least ≤ count then group
    else group ++ separator :: groupedUp size separator fuel (least - count - 1) rest

/-- Digits in groups, if they are to be grouped, with zeros before them until at least the given
number of characters is reached. -/
def grouped (grouping : Option Char) (size least : Nat) (digits : List Char) : List Char :=
  match grouping with
  | none => List.replicate (least - digits.length) '0' ++ digits
  | some separator =>
    (groupedUp size separator (digits.length + least + 1) least digits.reverse).reverse

/-- A number in the room that a layout gives it. -/
def Spec.placeFigure (s : Spec) (f : Figure) : List Char :=
  let sign := match s.sign with
    | some c => if c = '-' then [] else [c]
    | none => []
  let fixed := sign.length + f.lead.length + f.rest.length
  let width := s.width.getD 0
  let least := if s.fill = '0' ∧ s.align = '=' then width - fixed else 0
  let size := if s.grouping = some '_' ∧ "boxX".toList.contains s.type then 4 else 3
  let digits := if f.whole.isEmpty then [] else grouped s.grouping size least f.whole
  let room := width - (fixed + digits.length)
  let left := if s.align = '>' then room else if s.align = '^' then room / 2 else 0
  let inner := if s.align = '=' then room else 0
  List.replicate left s.fill ++ sign ++ f.lead ++ List.replicate inner s.fill ++ digits ++ f.rest ++
    List.replicate (room - left - inner) s.fill

/-! ## Whole numbers -/

/-- The base of a form, and what stands in front of digits to that base in the alternate form. -/
def baseOf? : Char → Option (Nat × List Char)
  | 'd' | 'n' => some (10, [])
  | 'b' => some (2, ['0', 'b'])
  | 'o' => some (8, ['0', 'o'])
  | 'x' => some (16, ['0', 'x'])
  | 'X' => some (16, ['0', 'X'])
  | _ => none

/-- A number as digits to a base. -/
def Spec.wholeFigure (s : Spec) (base : Nat) (lead : List Char) (n : Nat) :
    Except Failure Figure := do
  if s.precision.isSome then throw .precisionNotAllowed
  if s.dropZeroSign then throw .zeroNotWhole
  let digits := Nat.toDigits base n
  return { lead := if s.alternate then lead else [],
           whole := if s.type = 'X' then digits.map Char.toUpper else digits }

/-- A number as the character that has it. -/
def Spec.characterFigure (s : Spec) (n : Nat) : Except Failure Figure := do
  if s.precision.isSome then throw .precisionNotAllowed
  if s.dropZeroSign then throw .zeroNotWhole
  if s.sign.isSome then throw .signWithCharacter
  if s.alternate then throw .alternateWithCharacter
  if 0x10ffff < n then throw .noSuchCharacter
  return { rest := [Char.ofNat n] }

/-! ## Floating point numbers -/

/-- The whole number nearest to a number among those that floating point can say. -/
def nearest (n : Nat) : Nat :=
  let (num, den) := (Binary64.ofRatio false n 1).ratio
  num.natAbs / den

/-- A number rounded to a count of digits, and how many more digits it has before its point. -/
def rounded (count n : Nat) : List Char × Nat :=
  let digits := Nat.toDigits 10 n
  let spare := digits.length - count
  let shown := Nat.toDigits 10 (Decimal.roundRatio n (Nat.pow 10 spare))
  if count < shown.length ∧ 0 < spare then (shown.take count, spare + 1) else (shown, spare)

/-- Digits behind a point, which is left out where there are none unless the alternate form is asked
for. -/
def pointed (alternate : Bool) (places : List Char) : List Char :=
  if places.isEmpty && !alternate then [] else '.' :: places

/-- Digits without the zeros at their end. -/
def withoutZeros (ds : List Char) : List Char := (ds.reverse.dropWhile (· == '0')).reverse

/-- A number with all its digits before the point. -/
def fixedFigure (alternate : Bool) (places n : Nat) : Figure :=
  { whole := Nat.toDigits 10 n, rest := pointed alternate (List.replicate places '0') }

/-- Digits with one of them before the point, and an exponent. -/
def exponentFigure (alternate : Bool) (mark : Char) (digits : List Char) (exponent : Nat) :
    Figure :=
  { whole := digits.take 1
    rest := pointed alternate (digits.drop 1) ++ mark :: Binary64.exponentText 2 exponent }

/-- A number with a count of digits behind its first one, and an exponent. -/
def scientificFigure (alternate : Bool) (mark : Char) (places n : Nat) : Figure :=
  let (digits, spare) := rounded (places + 1) n
  let digits' := digits ++ List.replicate (places + 1 - digits.length) '0'
  exponentFigure alternate mark digits' (digits.length + spare - 1)

/-- A number with a count of digits, with an exponent only if its digits before the point are more.
Zeros at the end behind the point are left out unless the alternate form is asked for. -/
def generalFigure (alternate : Bool) (mark : Char) (count n : Nat) : Figure :=
  let (digits, spare) := rounded count n
  let exponent := digits.length + spare - 1
  if exponent < count then
    fixedFigure alternate (if alternate then count - 1 - exponent else 0) n
  else
    let digits := if alternate then digits else digits.take 1 ++ withoutZeros (digits.drop 1)
    exponentFigure alternate mark digits exponent

/-- A number as a floating point number in a form. -/
def Spec.floatFigure (s : Spec) (n : Nat) : Except Failure (Option Figure) := do
  let places := s.precision.getD 6
  let n := nearest n
  let figure ← match s.type with
    | 'e' | 'E' => pure (some (scientificFigure s.alternate s.type places n))
    | 'f' | 'F' => pure (some (fixedFigure s.alternate places n))
    | 'g' | 'G' =>
      pure (some (generalFigure s.alternate (if s.type = 'g' then 'e' else 'E') (max places 1) n))
    | '%' =>
      let f := fixedFigure s.alternate places (nearest (100 * n))
      pure (some { f with rest := f.rest ++ ['%'] })
    | _ => pure none
  if figure.isSome && Nat.pow 2 31 - 1 < places then throw .precisionTooLong
  return figure

/-! ## Layout -/

/-- A number of a kind laid out as what stands behind a colon asks for. -/
def layOutNumber (kind : String) (spec : List Char) (n : Nat) : Except Failure (List Char) := do
  let s ← specOf kind true spec
  match baseOf? s.type with
  | some (base, lead) => return s.placeFigure (← s.wholeFigure base lead n)
  | none =>
    if s.type = 'c' then return s.placeFigure (← s.characterFigure n)
    else match ← s.floatFigure n with
      | some f => return s.placeFigure f
      | none => throw (.unknownForm s.type kind)

end TargetAssembly.Template
