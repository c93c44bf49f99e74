import StreamTemplate.Operation.Bytes
import StreamTemplate.Tag.Syntax

/-!
# Arithmetic on values

Integers are unbounded, and division and remainder go to the floor. An integer meets a
floating-point number as a floating-point number. Sequences can be joined and repeated. An
assignment with an operator changes what can be changed itself.
-/

namespace StreamTemplate

open Tag

/-- How an operator is written in messages; in an assignment with an operator it has an equals sign
behind it. -/
def Tag.BinaryOp.symbol (augmented : Bool) : BinaryOp → String
  | add => if augmented then "+=" else "+"
  | sub => if augmented then "-=" else "-"
  | mul => if augmented then "*=" else "*"
  | div => if augmented then "/=" else "/"
  | floorDiv => if augmented then "//=" else "//"
  | mod => if augmented then "%=" else "%"
  | pow => if augmented then "**=" else "** or pow()"

namespace Work

/-! ### Numbers -/

/-- An integer as a floating-point number. -/
def toFloat (n : Int) : Work Float :=
  match Number.ofInt? n with
  | some x => pure x
  | none => fail .tooLargeForFloat

/-- A floating-point power. -/
def floatPower (x y : Float) : Work Value := do
  if x == 0.0 && y < 0.0 then fail .zeroToNegative
  let finite (x : Float) := match Number.parts x with | .finite .. => true | _ => false
  if x < 0.0 && finite x && finite y && !(y.floor == y) then
    fail (.unsupported "a fractional power of a negative number")
  let power := x.pow y
  if finite x && finite y && !finite power then fail .resultOutOfRange
  newFloat power

/-- An integer to the power of another. The powers of zero and of the units repeat, so that their
exponents can be of any size. -/
def integerPower (a : Int) (n : Nat) : Int :=
  Int.pow a (if a.natAbs ≤ 1 ∧ n > 1 then 2 - n % 2 else n)

/-- An operation on integers. -/
def integerOp (op : BinaryOp) (a b : Int) : Work Value :=
  match op with
  | .add => return .int (a + b)
  | .sub => return .int (a - b)
  | .mul => return .int (a * b)
  | .div =>
    if b = 0 then fail .divisionByZero
    else match Number.divide? a b with
      | some x => newFloat x
      | none => fail .quotientTooLarge
  | .floorDiv => if b = 0 then fail .integerDivision else return .int (a.fdiv b)
  | .mod => if b = 0 then fail .integerModulo else return .int (a.fmod b)
  | .pow => do
    if b < 0 then floatPower (← toFloat a) (← toFloat b) else return .int (integerPower a b.toNat)

/-- An operation on floating-point numbers. -/
def floatOp (op : BinaryOp) (x y : Float) : Work Value :=
  match op with
  | .add => newFloat (x + y)
  | .sub => newFloat (x - y)
  | .mul => newFloat (x * y)
  | .div => if y == 0.0 then fail .floatDivision else newFloat (x / y)
  | .floorDiv =>
    if y == 0.0 then fail .floatFloorDivision else newFloat (Number.floorDivide x y).1
  | .mod => if y == 0.0 then fail .floatModulo else newFloat (Number.floorDivide x y).2
  | .pow => floatPower x y

/-- An operation on numbers. -/
def numericOp (op : BinaryOp) : Numeric → Numeric → Work Value
  | .int a, .int b => integerOp op a b
  | .float x, .float y => floatOp op x y
  | .int a, .float y => do floatOp op (← toFloat a) y
  | .float x, .int b => do floatOp op x (← toFloat b)

/-! ### Sequences -/

/-- Two sequences joined; nothing if the left value is no sequence. Nothing added to a tuple is the
tuple itself. -/
def join? (left right : Value) : Work (Option Value) := do
  let refuse : Work (Option Value) :=
    fail (.concatenate left.typeName right.typeName)
  match left, right with
  | .text a, .text b => return some (.text (a ++ b))
  | .text _, _ => refuse
  | .tuple _ [], .tuple .. => return some right
  | .tuple .., .tuple _ [] => return some left
  | .tuple _ as, .tuple _ bs => return some (← newTuple (as ++ bs))
  | .tuple .., _ => refuse
  | .cell .list i, .cell .list j => return some (← newList ((← heap).list i ++ (← heap).list j))
  | .cell .list _, _ => refuse
  | .binary .memoryView _, _ => return none
  | left, right =>
    match left.isLiteral, (← heap).bytes? left, (← heap).bytes? right with
    | true, some as, some bs =>
      match left with
      | .binary kind _ => return some (.binary kind (as ++ bs))
      | _ => return some (← newByteArray (as ++ bs))
    | true, _, _ => refuse
    | false, _, _ => return none

/-- Whether a value can be repeated. -/
def repeatable : Value → Bool
  | .text _ | .tuple .. | .cell .list _ | .binary .bytes _ | .cell .byteArray _ => true
  | _ => false

/-- Items a number of times over. -/
def replicate {α : Type} (count : Int) (items : List α) : Work (List α) :=
  if items.length * count > memberLimit then fail .outOfMemory
  else return if items.isEmpty then [] else (List.replicate count.toNat items).flatten

/-- Bytes a number of times over. -/
def replicateBytes (count : Int) (data : List UInt8) : Work (List UInt8) := do
  if !fitsIndex (data.length * count) then fail (.repeatedTooLong "bytes are")
  replicate count data

/-- A sequence a number of times over; a tuple once is the tuple itself. -/
def repeatTimes (count : Int) (v : Value) : Work Value := do
  if !fitsIndex count then fail .countTooLarge
  let count := max count 0
  match v with
  | .text s =>
    if !fitsIndex (s.length * count) then fail (.repeatedTooLong "string is")
    return .text (String.ofList (← replicate count s.toList))
  | .tuple _ items => if count = 1 then return v else newTuple (← replicate count items)
  | .cell .list id => newList (← replicate count ((← heap).list id).toList).toArray
  | .cell .byteArray id =>
    let data := ((← heap).byteArray id).toList
    if !fitsIndex (data.length * count) then fail .outOfMemory
    newByteArray (← replicate count data)
  | .binary kind data => return .binary kind (← replicateBytes count data)
  | v => return v

/-! ### Forms -/

/-- A text taken as a form to fill in, with its doubled percent signs made single. Places for values
are not supported. -/
def fillForm : List Char → Except ValueFault (List Char)
  | [] => .ok []
  | '%' :: '%' :: rest => ('%' :: ·) <$> fillForm rest
  | ['%'] => .error .incompleteFormat
  | '%' :: _ => .error (.unsupported "formatting")
  | c :: rest => (c :: ·) <$> fillForm rest

/-- Whether a value that fills a form without places is left over: mappings and the empty tuple are
not. To the form of a text, a byte string is a mapping. -/
def leftOver (ofText : Bool) : Value → Bool
  | .tuple _ items => !items.isEmpty
  | .binary .bytes _ | .cell .byteArray _ => !ofText
  | .cell .list _ | .cell .dict _ | .binary .. | .range .. | .typeForm .. => false
  | _ => true

/-- A text as a form, filled with a value. -/
def fillText (form : String) (right : Value) : Work String :=
  match fillForm form.toList with
  | .error fault => fail fault
  | .ok filled =>
    if leftOver true right then fail (.unusedArguments "string") else return String.ofList filled

/-- A byte string as a form, filled with a value. -/
def fillBytes (form : List UInt8) (right : Value) : Work (List UInt8) :=
  match fillForm (form.map fun b => Char.ofNat b.toNat) with
  | .error fault => fail fault
  | .ok filled =>
    if leftOver false right then fail (.unusedArguments "bytes")
    else return filled.map fun c => c.toNat.toUInt8

/-! ### Operators -/

/-- The value of an operator between two values; `augmented` tells that it stands in an
assignment. -/
def binary (op : BinaryOp) (augmented : Bool) (left right : Value) : Work Value := do
  let refuse : Work Value :=
    fail (.operands (op.symbol augmented) left.typeName right.typeName)
  match left.numeric?, right.numeric? with
  | some a, some b => numericOp op a b
  | _, _ =>
    match op with
    | .add => do
      match ← join? left right with
      | some v => return v
      | none => refuse
    | .mul =>
      if repeatable left then
        match right.integer? with
        | some n => repeatTimes n left
        | none => fail (.repeatBy right.typeName)
      else if repeatable right && !(augmented && left.hasMembers) then
        match left.integer? with
        | some n => repeatTimes n right
        | none => fail (.repeatBy left.typeName)
      else refuse
    | .mod =>
      match left with
      | .text s => return .text (← fillText s right)
      | .binary .bytes data => return .binary .bytes (← fillBytes data right)
      | .cell .byteArray id => newByteArray (← fillBytes ((← heap).byteArray id).toList right)
      | _ => refuse
    | _ => refuse

/-- Makes the list or the byte string in a cell be there a number of times over. -/
def repeatInPlace (op : BinaryOp) (left right : Value) : Work Value := do
  match left, right.integer? with
  | .cell .list id, some n =>
    if !fitsIndex n then fail .countTooLarge
    store id (.list (← replicate n ((← heap).list id).toList).toArray)
    return left
  | .cell .byteArray id, some n =>
    if !fitsIndex n then fail .countTooLarge
    storeBytes id (← replicate n ((← heap).byteArray id).toList).toArray
    return left
  | _, _ => binary op true left right

/-- The value of an operator in front of a value; a floating-point number with a plus in front is
the number itself. -/
def unary (op : UnaryOp) (v : Value) : Work Value :=
  match op with
  | .not => do return .bool !(← truth v)
  | .negate =>
    match v.numeric? with
    | some (.int n) => return .int (-n)
    | some (.float x) => newFloat (-x)
    | none => fail (.operand "-" v.typeName)
  | .plus =>
    match v.numeric? with
    | some (.int n) => return .int n
    | some (.float _) => return v
    | none => fail (.operand "+" v.typeName)

end Work

/-- The value of an operator in an assignment: what can be changed is changed itself, any other
value gives a new one. -/
def Act.augment (op : BinaryOp) (left right : Value) : Act Value := do
  match op, left with
  | .add, .cell .list id =>
    extend id right
    return left
  | .add, .cell .byteArray id =>
    Work.extendBytes id right
    return left
  | .mul, left => Work.repeatInPlace op left right
  | _, _ => Work.binary op true left right

end StreamTemplate
