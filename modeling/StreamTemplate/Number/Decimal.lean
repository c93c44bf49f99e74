import StreamTemplate.Number.Rounding
import StreamTemplate.Text.Digit

/-!
# Reading decimal texts

The floating-point number nearest to a decimal, and the texts that stand for one.
-/

namespace StreamTemplate.Number

/-- The number nearest to `mantissa * 10 ^ exponent`. -/
def ofDecimal (mantissa : Nat) (exponent : Int) : Float :=
  if mantissa = 0 then 0.0
  else
    let digits : Int := (Nat.toDigits 10 mantissa).length
    if digits + exponent > 400 then infinite false
    else if digits + exponent < -400 then 0.0
    else Float.ofScientific mantissa (exponent < 0) exponent.natAbs

/-- The value of decimal digits, and how many there are. -/
def readDigits (cs : List Char) : Nat × Nat :=
  cs.foldl (fun (n, count) c => (n * 10 + (c.toNat - '0'.toNat), count + 1)) (0, 0)

/-- The number that a decimal text without a sign stands for: digits, a fraction and an exponent, or
one of the words for what is not finite. -/
def readUnsigned? (s : String) : Option Float :=
  let cs := s.toList
  if s.toLower ∈ ["inf", "infinity"] then some (infinite false)
  else if s.toLower = "nan" then some (0.0 / 0.0)
  else
    let whole := cs.takeWhile Char.isDigit
    let rest := cs.drop whole.length
    let fraction := match rest with
      | '.' :: more => more.takeWhile Char.isDigit
      | _ => []
    let rest := match rest with
      | '.' :: more => more.drop fraction.length
      | _ => rest
    let mantissa := (readDigits (whole ++ fraction)).1
    if whole.isEmpty && fraction.isEmpty then none
    else match rest with
      | [] => some (ofDecimal mantissa (-fraction.length))
      | mark :: more =>
        if mark ≠ 'e' && mark ≠ 'E' then none
        else
          let (negative, digits) := match more with
            | '-' :: digits => (true, digits)
            | '+' :: digits => (false, digits)
            | digits => (false, digits)
          if digits.isEmpty || !digits.all Char.isDigit then none
          else
            let size : Int := (readDigits digits).1
            some (ofDecimal mantissa ((if negative then -size else size) - fraction.length))

/-- The characters of a number with digits of any script as the usual ones, and without the
underscores between them. -/
def plainDigits (cs : List Char) : List Char :=
  (cs.filter (· ≠ '_')).map fun c =>
    match Text.digit? c with
    | some v => Char.ofNat ('0'.toNat + v)
    | none => c

/-- The number that a text stands for. -/
def readFloat? (s : String) : Option Float :=
  match plainDigits (Text.trim s).toList with
  | '-' :: rest => (readUnsigned? (String.ofList rest)).map (- ·)
  | '+' :: rest => readUnsigned? (String.ofList rest)
  | cs => readUnsigned? (String.ofList cs)

end StreamTemplate.Number
