/-!
# Binary floating point numbers

A number of sixty-four bits: a sign, eleven bits of exponent and fifty-two of fraction.  A finite
number is `mantissa * 2 ^ scale` under its sign.  Everything here is exact arithmetic on natural
numbers; `Binary64.ofDecimal` reads a decimal as the nearest number.
-/

namespace TargetAssembly.Decimal

/-!
## Rounding a ratio

`roundRatio` takes a ratio to the nearest natural number, and one that lies half way between two
to the even one.
-/

/-- The natural number nearest to `num / den`; half way goes to the even neighbour. -/
def roundRatio (num den : Nat) : Nat :=
  let floor := num / den
  let rest := num % den
  if 2 * rest < den then floor
  else if den < 2 * rest then floor + 1
  else if floor % 2 = 0 then floor else floor + 1

/-- `base` to a whole power, as a ratio of natural numbers. -/
def powerRatio (base : Nat) (exponent : Int) : Nat × Nat :=
  if 0 ≤ exponent then (Nat.pow base exponent.toNat, 1) else (1, Nat.pow base (-exponent).toNat)

end TargetAssembly.Decimal

namespace TargetAssembly

/-- A floating point number of sixty-four bits. -/
structure Binary64 where
  /-- The bits, the sign first. -/
  bits : UInt64
deriving DecidableEq, Repr

namespace Binary64

open Decimal

/-! ## The parts of a number -/

/-- The sign bit. -/
def negative (x : Binary64) : Bool := x.bits.toNat / Nat.pow 2 63 == 1

/-- The eleven bits of exponent. -/
def exponentField (x : Binary64) : Nat := x.bits.toNat / Nat.pow 2 52 % Nat.pow 2 11

/-- The fifty-two bits of fraction. -/
def fraction (x : Binary64) : Nat := x.bits.toNat % Nat.pow 2 52

/-- Whether the bits stand for no number. -/
def isNaN (x : Binary64) : Bool := x.exponentField == 2047 && x.fraction != 0

/-- Whether the number is infinite. -/
def isInfinite (x : Binary64) : Bool := x.exponentField == 2047 && x.fraction == 0

/-- The whole factor of a finite number. -/
def mantissa (x : Binary64) : Nat :=
  if x.exponentField = 0 then x.fraction else x.fraction + Nat.pow 2 52

/-- The power of two that a finite number multiplies its mantissa with. -/
def scale (x : Binary64) : Int :=
  (if x.exponentField = 0 then 1 else x.exponentField : Nat) - 1075

/-! ## Numbers from their parts -/

/-- The number with the given sign bit and the given sixty-three bits below it. -/
def signed (negative : Bool) (magnitude : Nat) : Binary64 :=
  ⟨UInt64.ofNat ((if negative then Nat.pow 2 63 else 0) + magnitude)⟩

/-- Zero under a sign. -/
def zero (negative : Bool) : Binary64 := signed negative 0

/-- Infinity under a sign. -/
def infinity (negative : Bool) : Binary64 := signed negative (2047 * Nat.pow 2 52)

/-- The bits that stand for no number, with a payload that tells them from others of their kind. -/
def undefined (payload : Nat) : Binary64 :=
  signed false (4095 * Nat.pow 2 51 + payload % Nat.pow 2 51)

/-- The bits that stand for no number, without a payload. -/
def nan : Binary64 := undefined 0

/-- A number as it is; what is no number gets a payload. -/
def marked (payload : Nat) (x : Binary64) : Binary64 := if x.isNaN then undefined payload else x

/-- The power of two by which a positive ratio is a number below `2 ^ 53` that is at least `2 ^ 52`
unless the power is the least one. -/
def scaleOfRatio (num den : Nat) : Int :=
  let guess : Int := (num.log2 : Int) - den.log2 - 53
  let (up, down) := powerRatio 2 guess
  let exact := if num * down < Nat.pow 2 53 * (den * up) then guess else guess + 1
  max exact (-1074)

/-- The number nearest to `num / den`, half way going to the even one, under a sign. -/
def ofRatio (negative : Bool) (num den : Nat) : Binary64 :=
  if num = 0 then zero negative
  else
    let scale := scaleOfRatio num den
    let (up, down) := powerRatio 2 scale
    let m := roundRatio (num * down) (den * up)
    let magnitude := (scale + 1074).toNat * Nat.pow 2 52 + m
    if 2047 * Nat.pow 2 52 ≤ magnitude then infinity negative else signed negative magnitude

/-- The number nearest to the decimal `digits * 10 ^ exponent`, under a sign.  Decimals far
outside the range of the numbers are infinite or zero without forming the power. -/
def ofDecimal (negative : Bool) (digits : Nat) (exponent : Int) : Binary64 :=
  if digits = 0 then zero negative
  else if 310 < exponent then infinity negative
  else if exponent + (digits.log2 / 3 + 1 : Nat) < -330 then zero negative
  else
    let (up, down) := powerRatio 10 exponent
    ofRatio negative (digits * up) down

/-! ## Comparison -/

/-- A finite number as a ratio of a whole number and a positive natural number. -/
def ratio (x : Binary64) : Int × Nat :=
  let (up, down) := powerRatio 2 x.scale
  let magnitude := x.mantissa * up
  (if x.negative then -magnitude else magnitude, down)

end Binary64

end TargetAssembly

namespace TargetAssembly.Binary64

/-!
## Narrower formats

A finite number can sometimes be kept in a format with fewer bits of exponent and of fraction.
`Binary64.narrow?` gives its bits there, without the sign, exactly when no information is lost.
-/

/-- The bits of a finite number in a narrower format, without the sign, if it can be kept there. -/
def narrow? (exponentBits fractionBits : Nat) (x : Binary64) : Option Nat :=
  if x.mantissa = 0 then some 0
  else
    let bias : Int := Nat.pow 2 (exponentBits - 1) - 1
    let top := x.scale + x.mantissa.log2
    let least := 1 - bias - fractionBits
    let unit := max (top - fractionBits) least
    let steps :=
      if unit ≤ x.scale then some (x.mantissa * Nat.pow 2 (x.scale - unit).toNat)
      else
        let divisor := Nat.pow 2 (unit - x.scale).toNat
        if x.mantissa % divisor = 0 then some (x.mantissa / divisor) else none
    if bias < top then none
    else steps.map fun n => (unit - least).toNat * Nat.pow 2 fractionBits + n

end TargetAssembly.Binary64
