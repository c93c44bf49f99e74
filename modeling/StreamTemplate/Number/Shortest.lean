import StreamTemplate.Number.Power
import StreamTemplate.Text.Blank

/-!
# Shortest decimal text of a floating-point number

A finite number is written with the fewest digits that read back as the same number, and of those
the nearest to it. The search runs in exact arithmetic: the number is `mantissa * 2 ^ exponent`, and
the decimals that read back as it lie between the midpoints to its two neighbours.
-/

namespace StreamTemplate.Number

/-- The parts of a floating-point number. -/
inductive Parts where
  | notANumber
  | infinite (negative : Bool)
  /-- The number `mantissa * 2 ^ exponent`, with the sign. -/
  | finite (negative : Bool) (mantissa : Nat) (exponent : Int)
  deriving Repr

/-- The parts of a number, read off its bits. -/
def parts (x : Float) : Parts :=
  let bits := x.toBits.toNat
  let negative := bits / twoTo 63 = 1
  let biased := bits / twoTo 52 % twoTo 11
  let fraction := bits % twoTo 52
  if biased = 2047 then if fraction = 0 then .infinite negative else .notANumber
  else if biased = 0 then .finite negative fraction (-1074)
  else .finite negative (twoTo 52 + fraction) (Int.ofNat biased - 1075)

/-- A positive number and the interval of decimals that read back as it, all over one common
denominator: `value`, `low` and `high` times `1 / denominator`. The ends belong to the interval when
`closed` holds. -/
structure Span where
  low : Nat
  value : Nat
  high : Nat
  denominator : Nat
  closed : Bool

/-- The interval of a positive number: halfway to each neighbour. Below a power of two the lower
neighbour is half as far. -/
def spanOf (mantissa : Nat) (exponent : Int) : Span :=
  let narrow := mantissa = twoTo 52 && exponent > -1074
  let scale := if exponent ≥ 0 then twoTo exponent.toNat else 1
  let denominator := if exponent ≥ 0 then 4 else 4 * twoTo (-exponent).toNat
  { low := (4 * mantissa - if narrow then 1 else 2) * scale
    value := 4 * mantissa * scale
    high := (4 * mantissa + 2) * scale
    denominator
    closed := mantissa % 2 = 0 }

/-- Whether the decimal `digits * 10 ^ power` reads back as the number of the span. -/
def Span.holds (s : Span) (digits : Nat) (power : Int) : Bool :=
  let point := if power ≥ 0 then digits * tenTo power.toNat * s.denominator
    else digits * s.denominator
  let unit := if power ≥ 0 then 1 else tenTo (-power).toNat
  if s.closed then s.low * unit ≤ point && point ≤ s.high * unit
  else s.low * unit < point && point < s.high * unit

/-- The decimal just below the number on the grid of `10 ^ power`. -/
def Span.floor (s : Span) (power : Int) : Nat :=
  if power ≥ 0 then s.value / (s.denominator * tenTo power.toNat)
  else s.value * tenTo (-power).toNat / s.denominator

/-- Whether the number lies nearer to the upper of the two decimals around it, an exact half going
to the even one. -/
def Span.upward (s : Span) (power : Int) : Bool :=
  let unit := if power ≥ 0 then s.denominator * tenTo power.toNat else s.denominator
  let value := if power ≥ 0 then s.value else s.value * tenTo (-power).toNat
  let rest := value % unit
  2 * rest > unit || (2 * rest == unit && value / unit % 2 == 1)

/-- The nearest decimal on the grid of `10 ^ power` that reads back as the number. -/
def Span.nearest? (s : Span) (power : Int) : Option Nat :=
  let below := s.floor power
  match s.holds below power && below ≠ 0, s.holds (below + 1) power with
  | true, true => some (if s.upward power then below + 1 else below)
  | true, false => some below
  | false, true => some (below + 1)
  | false, false => none

/-- The number of decimal digits in front of the point, less those that are zero behind it: the
number lies between `10 ^ (order - 1)` and `10 ^ order`. -/
def Span.order (s : Span) : Int :=
  if s.value ≥ s.denominator then (Nat.toDigits 10 (s.value / s.denominator)).length
  else
    let ratio := s.denominator / s.value
    let digits : Int := (Nat.toDigits 10 ratio).length
    if s.value * tenTo (Nat.toDigits 10 ratio).length ≥ s.denominator * 10 then 2 - digits
    else 1 - digits

/-- The digits and the power of ten of the shortest decimal, trying one digit, then two, and so
on. -/
def Span.search (s : Span) : Nat → Nat → Nat × Int
  | 0, count => (s.floor (s.order - count), s.order - count)
  | fuel + 1, count =>
    match s.nearest? (s.order - count) with
    | some digits => (digits, s.order - count)
    | none => s.search fuel (count + 1)

/-- The shortest decimal of a positive number: its digits without zeros at the end, and the place of
the point relative to the front of the digits. -/
def shortest (mantissa : Nat) (exponent : Int) : List Char × Int :=
  let (digits, power) := (spanOf mantissa exponent).search 20 1
  let all := Nat.toDigits 10 digits
  let kept := (all.reverse.dropWhile (· == '0')).reverse
  (kept, all.length + power)

/-- Digits with the point where it belongs: positional from `10 ^ -4` up to `10 ^ 16`, with an
exponent of two digits or more outside. -/
def placePoint (digits : List Char) (point : Int) : List Char :=
  if -4 < point ∧ point ≤ 16 then
    if point ≤ 0 then '0' :: '.' :: List.replicate (-point).toNat '0' ++ digits
    else
      let whole := point.toNat
      if digits.length ≤ whole then
        digits ++ List.replicate (whole - digits.length) '0' ++ ['.', '0']
      else digits.take whole ++ '.' :: digits.drop whole
  else
    let power := point - 1
    let body := Nat.toDigits 10 power.natAbs
    let shown := List.replicate (2 - body.length) '0' ++ body
    let mark := 'e' :: (if power < 0 then '-' else '+') :: shown
    match digits with
    | d :: e :: more => d :: '.' :: e :: more ++ mark
    | few => few ++ mark

/-- The text of a floating-point number. -/
def floatText (x : Float) : String :=
  match parts x with
  | .notANumber => "nan"
  | .infinite negative => if negative then "-inf" else "inf"
  | .finite negative mantissa exponent =>
    let body := if mantissa = 0 then ['0', '.', '0']
      else let (digits, point) := shortest mantissa exponent; placePoint digits point
    String.ofList (if negative then '-' :: body else body)

end StreamTemplate.Number
