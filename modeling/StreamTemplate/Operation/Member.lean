import StreamTemplate.Number.Integer
import StreamTemplate.Operation.Item
import StreamTemplate.Operation.Known
import StreamTemplate.Text.Upper

/-!
# Attributes, methods and built-in functions

Objects have the attributes they were made with and those they have been given since. Built-in
values have a few methods, and there are a few functions that need no definition.
-/

namespace StreamTemplate

namespace Work

/-! ### Attributes -/

/-- The fault of an attribute that is not there. -/
def missingAttribute {α : Type} (v : Value) (name : String) : Work α :=
  match v with
  | .builtin (.type type) | .typeForm _ type _ => fail (.noTypeAttribute type name)
  | v =>
    if v.same (.builtin .module) then fail (.noModuleAttribute name)
    else fail (.noAttribute v.typeName name)

/-- An attribute that a value has by its type. -/
def typeAttribute (v : Value) (name : String) : Work Value :=
  match v with
  | .builtin (.type type) | .typeForm _ type _ =>
    match methodOf? type name with
    | some method => return .builtin (.method type method)
    | none => missingAttribute v name
  | v =>
    match if v.same (.builtin .module) then Builtin.find? name else none with
    | some value => return value
    | none =>
      match methodOf? v.typeName name with
      | some method => return .method (← newIdentity) v method
      | none => missingAttribute v name

/-- An attribute of a value. -/
def readAttribute (v : Value) (name : String) : Work Value := do
  match v.owner? with
  | some owner =>
    match ((← heap).attributesOf owner).lookup name with
    | some value => return value
    | none => typeAttribute v name
  | none => typeAttribute v name

/-- The fault of changing an attribute of a value that cannot be given any. -/
def fixedAttribute (v : Value) (name : String) : Work Unit :=
  match v with
  | .builtin (.type type) => fail (.typeAttribute type name)
  | v =>
    if (methodOf? v.typeName name).isSome then fail (.readOnlyAttribute v.typeName name)
    else fail (.noAttribute v.typeName name)

/-- Stores an attribute of a value. -/
def setAttribute (v : Value) (name : String) (value : Value) : Work Unit := do
  match v.owner? with
  | some owner => setAttributes owner (putNamed name value ((← heap).attributesOf owner))
  | none => fixedAttribute v name

/-- Deletes an attribute of a value. -/
def deleteAttribute (v : Value) (name : String) : Work Unit := do
  match v.owner? with
  | some owner =>
    let attrs := (← heap).attributesOf owner
    if attrs.any (·.1 = name) then setAttributes owner (attrs.filter (·.1 ≠ name))
    else missingAttribute v name
  | none => fixedAttribute v name

/-! ### Functions -/

/-- The number of members of a value. -/
def length (v : Value) : Work Value := do
  match v with
  | .text s => return .int s.length
  | .binary _ data => return .int data.length
  | .tuple _ items => return .int items.length
  | .range _ start stop step =>
    let size := rangeSize start stop step
    if size ≥ Number.twoTo 63 then fail .lengthTooLarge else return .int size
  | .cell .list id => return .int ((← heap).list id).size
  | .cell .byteArray id => return .int ((← heap).byteArray id).size
  | .cell .dict id => return .int ((← heap).dict id).used
  | .cell .dictKeys id | .cell .dictValues id | .cell .dictItems id =>
    return .int ((← heap).dict ((← heap).viewed id)).used
  | v => fail (.noLength v.typeName)

/-- A range of integers. -/
def newRange (start stop step : Int) : Work Value := do
  if step = 0 then fail .zeroRangeStep
  return .range (← newIdentity) start stop step

/-- A range from its arguments. -/
def makeRange : List Value → Work Value
  | [] => fail (.argumentCount "range expected at least 1 argument, got 0")
  | [stop] => do newRange 0 (← integerArgument stop) 1
  | [start, stop] => do newRange (← integerArgument start) (← integerArgument stop) 1
  | [start, stop, step] => do
    let start ← integerArgument start
    let stop ← integerArgument stop
    newRange start stop (← integerArgument step)
  | args => fail (.argumentCount s!"range expected at most 3 arguments, got {args.length}")

/-- How much of a text that should be an integer is shown. -/
def shownLimit : Nat :=
  200

/-- The integer that a text stands for; `shown` is the text in messages. -/
def readInt (cs : List Char) (shown : String) : Work Value :=
  match Number.readInteger cs with
  | .value n => return .int n
  | .tooLong digits => fail (.tooManyDigits (some digits))
  | .invalid => fail (.badIntegerText (String.ofList (shown.toList.take shownLimit)))

/-- The integer that the bytes of a text stand for. -/
def readIntBytes (data : List UInt8) : Work Value :=
  let cs := data.map fun b => if b < 0x80 then Char.ofNat b.toNat else '\uFFFD'
  readInt cs (showBinary .bytes (data.take shownLimit))

/-- A value as an integer: numbers lose their fraction, texts are read. -/
def makeInt (v : Value) : Work Value := do
  match v with
  | .bool b => return .int (if b then 1 else 0)
  | .int n => return .int n
  | .float _ x =>
    match Number.parts x with
    | .notANumber => fail .notANumber
    | .infinite _ => fail .infinite
    | .finite negative mantissa exponent => return .int (Number.truncate negative mantissa exponent)
  | .text s => readInt s.toList (← written v)
  | v =>
    match (← heap).bytes? v with
    | some data => readIntBytes data
    | none => fail (.badIntegerType v.typeName)

/-! ### Methods -/

/-- Removes and returns a member of the list in a cell. -/
def popFrom (id : Nat) (index : Int) : Work Value := do
  let items := (← heap).list id
  if items.isEmpty then fail (.popFromEmpty "list")
  match (placeOf? items.size index).bind fun place => items[place]?.map (place, ·) with
  | some (place, v) =>
    store id (.list (items.toList.eraseIdx place).toArray)
    return v
  | none => fail (.outOfRange "pop index out of range")

/-- Removes the entry with a key from the dictionary in a cell and returns its value. An empty
dictionary does not look at the key. -/
def popKey (id : Nat) (key : Value) (fallback : Option Value) : Work Value := do
  let found ← if ((← heap).dict id).used = 0 then pure none else takeKey? id key
  match found, fallback with
  | some v, _ => return v
  | none, some v => return v
  | none, none => fail (.missingKey key)

/-- The texts that are to be joined. -/
def joinable (place : Nat) : List Value → Work (List String)
  | [] => return []
  | .text s :: rest => do return s :: (← joinable (place + 1) rest)
  | v :: _ => fail (.joinItem place "str instance" v.typeName)

/-- The byte strings that are to be joined. -/
def joinableBytes (place : Nat) : List Value → Work (List (List UInt8))
  | [] => return []
  | v :: rest => do
    match (← heap).bytes? v with
    | some data => return data :: (← joinableBytes (place + 1) rest)
    | none => fail (.joinItem place "a bytes-like object" v.typeName)

/-- A byte string with its letters made large. -/
def upperBytes (data : List UInt8) : List UInt8 :=
  data.map fun b => if 97 ≤ b && b ≤ 122 then b - 32 else b

/-- A view of the dictionary in a cell. -/
def dictView (kind : CellKind) (id : Nat) : Work Value := do
  return .cell kind (← alloc (.dictView id))

end Work

namespace Act

/-- Texts or byte strings with the receiver between them. -/
def join (receiver v : Value) : Act Value := do
  match ← cursor? v with
  | none => fail .joinNonIterable
  | some c =>
    let members ← drain c
    match receiver with
    | .text s => return .text (s.intercalate (← Work.joinable 0 members))
    | .cell .byteArray id =>
      let parts ← Work.joinableBytes 0 members
      newByteArray (((← heap).byteArray id).toList.intercalate parts)
    | receiver =>
      let parts ← Work.joinableBytes 0 members
      return .binary .bytes ((((← heap).bytes? receiver).getD []).intercalate parts)

/-- The fault of a method given other arguments than it takes. -/
def wrongCount (receiver : Value) (method : Method) (args : List Value) : Act Value :=
  let given := args.length
  let name := s!"{receiver.typeName}.{method.label}"
  fail <| .argumentCount <|
    match method, receiver with
    | .append, _ | .join, _ => s!"{name}() takes exactly one argument ({given} given)"
    | .pop, .cell .dict _ =>
      if given = 0 then "pop expected at least 1 argument, got 0"
      else s!"pop expected at most 2 arguments, got {given}"
    | .pop, _ => s!"pop expected at most 1 argument, got {given}"
    | _, _ => s!"{name}() takes no arguments ({given} given)"

/-- The index of a member to be removed. -/
def popIndex (v : Value) : Work Int := do
  let index ← Work.integerArgument v
  if fitsIndex index then return index else Work.fail .lengthTooLarge

/-- Calls a method. -/
def callMethod (receiver : Value) (method : Method) (args : List Value) : Act Value := do
  match receiver, method, args with
  | .cell .list id, .append, [v] =>
    Work.pushItem id v
    return .none
  | .cell .byteArray id, .append, [v] =>
    Work.appendByte id v
    return .none
  | .cell .list id, .pop, [] => Work.popFrom id (-1)
  | .cell .list id, .pop, [index] => do Work.popFrom id (← popIndex index)
  | .cell .byteArray id, .pop, [] => Work.popByte id (-1)
  | .cell .byteArray id, .pop, [index] => do Work.popByte id (← popIndex index)
  | .cell .dict id, .pop, [key] => Work.popKey id key none
  | .cell .dict id, .pop, [key, fallback] => Work.popKey id key (some fallback)
  | .text s, .upper, [] => return .text (Text.upper s)
  | .binary .bytes data, .upper, [] => return .binary .bytes (Work.upperBytes data)
  | .cell .byteArray id, .upper, [] =>
    newByteArray (Work.upperBytes ((← heap).byteArray id).toList)
  | receiver, .join, [v] => join receiver v
  | .cell .dict id, .items, [] => Work.dictView .dictItems id
  | .cell .dict id, .keys, [] => Work.dictView .dictKeys id
  | .cell .dict id, .values, [] => Work.dictView .dictValues id
  | receiver, method, args => wrongCount receiver method args

/-- Calls what needs no definition. -/
def callBuiltin (b : Builtin) (args : List Value) : Act Value := do
  match b, args with
  | .function "len", [v] => Work.length v
  | .function "len", args =>
    fail (.argumentCount s!"len() takes exactly one argument ({args.length} given)")
  | .type "range", args => Work.makeRange args
  | .type "str", [] => return .text ""
  | .type "str", [v] => return .text (← Work.text v)
  | .type "int", [] => return .int 0
  | .type "int", [v] => Work.makeInt v
  | .type "list", [] => newList #[]
  | .type "list", [v] => newList (← members v).toArray
  | .type "list", args =>
    fail (.argumentCount s!"list expected at most 1 argument, got {args.length}")
  | .type "str", _ => fail (.unsupported "str() with an encoding")
  | .type "int", _ => fail (.unsupported "int() with a base")
  | .method type method, [] => fail (.noReceiver type method.label)
  | .method type method, receiver :: args =>
    if receiver.typeName = type then callMethod receiver method args
    else fail (.wrongReceiver type method.label receiver.typeName)
  | .function name, _ | .type name, _ => fail (.unsupported s!"{name}()")
  | .thing type _, _ => fail (.notCallable type)

end Act

end StreamTemplate
