import StreamTemplate.Text.Digit

/-!
# Integers written as text

An integer is written with an optional sign and digits, single underscores between them, and perhaps
white space around all of it. Numbers of too many digits are refused, whatever follows them.
-/

namespace StreamTemplate.Number

/-- The most digits that an integer is read or written with. -/
def digitLimit : Nat := 4300

/-- What a text that should be an integer is. -/
inductive IntegerText where
  | value (n : Int)
  /-- A number of that many digits, which are too many. -/
  | tooLong (digits : Nat)
  | invalid
  deriving DecidableEq, Repr

/-- Digits read so far: their number, and the number that they are. -/
structure Digits where
  count : Nat := 0
  value : Nat := 0
  /-- Whether an underscore comes last. -/
  open_ : Bool := false

/-- The digits at the beginning of a text and what follows them; nothing if an underscore is in a
place of its own. -/
def scanDigits (d : Digits) : List Char → Option (Digits × List Char)
  | [] => if d.open_ then none else some (d, [])
  | c :: rest =>
    if c = '_' then
      if d.open_ || d.count = 0 then none else scanDigits { d with open_ := true } rest
    else match Text.digit? c with
      | some v =>
        -- Beyond the limit the number itself does not matter.
        let value := if d.count < digitLimit then d.value * 10 + v else d.value
        scanDigits { count := d.count + 1, value } rest
      | none => if d.open_ then none else some (d, c :: rest)

/-- The sign of a number and what follows it. -/
def signOf : List Char → Bool × List Char
  | '-' :: rest => (true, rest)
  | '+' :: rest => (false, rest)
  | cs => (false, cs)

/-- Reads a text as an integer. -/
def readInteger (cs : List Char) : IntegerText :=
  let (negative, cs) := signOf (cs.dropWhile Text.isNumberSpace)
  match scanDigits {} cs with
  | none => .invalid
  | some (d, rest) =>
    if d.count > digitLimit then .tooLong d.count
    else if d.count = 0 || !rest.all Text.isNumberSpace then .invalid
    else .value (if negative then -d.value else d.value)

end StreamTemplate.Number
