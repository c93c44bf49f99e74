import StreamTemplate.Number.Shortest

/-!
# Floating-point numbers and exact numbers

Conversions between floating-point numbers and exact fractions, and the operations that need them: a
quotient of integers rounded once, the remainder of a division, comparison with an integer. Rounding
goes to the nearest number, and an exact half goes to the even one.
-/

namespace StreamTemplate.Number

/-- The number `mantissa * 2 ^ exponent`, whose mantissa has 53 bits at most and exactly 53 if the
exponent is above -1074. -/
def assemble (negative : Bool) (mantissa : Nat) (exponent : Int) : Float :=
  let sign := if negative then twoTo 63 else 0
  let bits :=
    if mantissa < twoTo 52 then mantissa
    else (exponent + 1075).toNat * twoTo 52 + (mantissa - twoTo 52)
  Float.ofBits (sign + bits).toUInt64

/-- The infinite number of a sign. -/
def infinite (negative : Bool) : Float :=
  Float.ofBits (if negative then 0xFFF0000000000000 else 0x7FF0000000000000)

/-- The nearest integer to a fraction, an exact half going to the even one. -/
def roundHalfEven (num den : Nat) : Nat :=
  let whole := num / den
  let rest := num % den
  if 2 * rest > den || (2 * rest == den && whole % 2 == 1) then whole + 1 else whole

/-- The fraction `num / den` over the unit `2 ^ exponent`, rounded to an integer. -/
def inUnits (num den : Nat) (exponent : Int) : Nat :=
  if exponent ≥ 0 then roundHalfEven num (den * twoTo exponent.toNat)
  else roundHalfEven (num * twoTo (-exponent).toNat) den

/-- The number nearest to the positive fraction `num / den`; nothing if it is too large. -/
def nearest? (negative : Bool) (num den : Nat) : Option Float :=
  if num = 0 then some (assemble negative 0 (-1074))
  else
    -- The fraction lies between `2 ^ (order - 1)` and `2 ^ (order + 1)`.
    let order : Int := (num.log2 : Int) - den.log2
    let wide := inUnits num den (max (order - 53) (-1074))
    let exponent := max (if wide < twoTo 53 then order - 53 else order - 52) (-1074)
    let mantissa := inUnits num den exponent
    let (mantissa, exponent) :=
      if mantissa = twoTo 53 then (twoTo 52, exponent + 1) else (mantissa, exponent)
    if exponent > 971 then none else some (assemble negative mantissa exponent)

/-- The number nearest to an integer; nothing if it is too large. -/
def ofInt? (n : Int) : Option Float :=
  nearest? (n < 0) n.natAbs 1

/-- The quotient of two integers rounded once; nothing if it is too large. The divisor is not
zero. -/
def divide? (a b : Int) : Option Float :=
  nearest? ((a < 0) != (b < 0)) a.natAbs b.natAbs

/-- The integer part of a finite number, towards zero. -/
def truncate (negative : Bool) (mantissa : Nat) (exponent : Int) : Int :=
  let size : Nat :=
    if exponent ≥ 0 then mantissa * twoTo exponent.toNat else mantissa / twoTo (-exponent).toNat
  if negative then -size else size

/-- How a finite number compares with an integer. -/
def compareInt (negative : Bool) (mantissa : Nat) (exponent : Int) (n : Int) : Ordering :=
  let signed : Int := if negative then -mantissa else mantissa
  if exponent ≥ 0 then compare (signed * twoTo exponent.toNat) n
  else compare signed (n * twoTo (-exponent).toNat)

/-- The remainder of `x / y` with the quotient cut off towards zero: it has the sign of `x`, and it
is exact. The divisor is not zero. -/
def remainder (x y : Float) : Float :=
  match parts x, parts y with
  | .finite negative m e, .finite _ n f =>
    let unit := min e f
    let left := m * twoTo (e - unit).toNat
    let right := n * twoTo (f - unit).toNat
    let rest := left % right
    let scaled := if unit ≥ 0 then (rest * twoTo unit.toNat, 1) else (rest, twoTo (-unit).toNat)
    (nearest? negative scaled.1 scaled.2).getD x
  | .finite .., .infinite _ => x
  | _, _ => 0.0 / 0.0

/-- The number with the sign of another. -/
def withSign (x sign : Float) : Float :=
  let bits := x.toBits.toNat % twoTo 63
  Float.ofBits ((if sign.toBits.toNat ≥ twoTo 63 then twoTo 63 else 0) + bits).toUInt64

/-- Floor division and the remainder that goes with it, which has the sign of the divisor. The
divisor is not zero. -/
def floorDivide (x y : Float) : Float × Float :=
  let rest := remainder x y
  let quotient := (x - rest) / y
  let (rest, quotient) :=
    if rest == 0.0 then (withSign 0.0 y, quotient)
    else if (y < 0.0) != (rest < 0.0) then (rest + y, quotient - 1.0)
    else (rest, quotient)
  let whole :=
    if quotient == 0.0 then withSign 0.0 (x / y)
    else
      let floor := quotient.floor
      if quotient - floor > 0.5 then floor + 1.0 else floor
  (whole, rest)

end StreamTemplate.Number
