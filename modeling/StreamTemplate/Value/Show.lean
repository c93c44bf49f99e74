import StreamTemplate.Diagnostic.Palette
import StreamTemplate.Number.Integer
import StreamTemplate.Number.Shortest
import StreamTemplate.Text.Quoted
import StreamTemplate.Value.Heap
import StreamTemplate.Value.Same

/-!
# Values as text

Every value has a text and a written form. They differ for texts only, which are written in quotes,
and for objects that cannot be turned into text. Containers show their members in written form, and
a container inside itself is shown by dots.
-/

namespace StreamTemplate

open Text

/-- How deep values may be nested when they are shown or compared. -/
def nestingLimit : Nat := 970

/-- An integer in decimal digits. -/
def showInt (n : Int) : Except Fault String :=
  if n.natAbs ≥ Number.tenTo Number.digitLimit then .error (ValueFault.tooManyDigits none).toFault
  else .ok (toString n)

/-- A byte string in written form. -/
def showBinary (kind : BinaryKind) (data : List UInt8) : String :=
  match kind with
  | .bytes => "b" ++ quotedBytes data
  | .memoryView => "<memory>"

/-- Members between commas. -/
def commaSeparated (members : List String) : String :=
  ", ".intercalate members

/-- The members of a tuple between parentheses; a single one is followed by a comma. -/
def showTuple : List String → String
  | [one] => s!"({one},)"
  | many => s!"({commaSeparated many})"

/-- A range in written form; a step of one is left out. -/
def showRange (start stop step : Int) : String :=
  if step = 1 then s!"range({start}, {stop})" else s!"range({start}, {stop}, {step})"

/-- What needs no definition in written form. -/
def showBuiltin : Builtin → String
  | .function name => s!"<built-in function {name}>"
  | .type name => s!"<class '{name}'>"
  | .method type method => s!"<method '{method.label}' of '{type}' objects>"
  | .thing _ text => text

/-- How a type of containers is written with the types of its members. -/
def showAlias (type : String) (members : List String) : String :=
  if members.isEmpty then s!"{type}[()]" else s!"{type}[{commaSeparated members}]"

/-- What stands for a container inside itself. -/
def innerForm : Value → String
  | .tuple .. => "(...)"
  | .cell .list _ => "[...]"
  | .cell .dict _ => "\x7b...\x7d"
  | _ => "..."

namespace Heap

/-- A value in written form. `entered` lists the containers around it, and `depth` is how much
deeper it may go. -/
def writtenAt (heap : Heap) (depth : Nat) (entered : List Value) (v : Value) :
    Except Fault String :=
  match depth with
  | 0 => .error (ValueFault.tooDeepToShow).toFault
  | depth + 1 =>
    let inside := writtenAt heap depth (v :: entered)
    let pair (show_ : String → String → String) : Entry → Except Fault String
      | (key, value) => do
        let key ← inside key
        return show_ key (← inside value)
    if entered.any (·.same v) then .ok (innerForm v) else
    match v with
    | .none => .ok "None"
    | .bool b => .ok (if b then "True" else "False")
    | .int n => showInt n
    | .float _ x => .ok (Number.floatText x)
    | .text s => .ok (quoted s)
    | .binary kind data => .ok (showBinary kind data)
    | .tuple _ items => showTuple <$> items.mapM inside
    | .range _ start stop step => .ok (showRange start stop step)
    | .builtin b => .ok (showBuiltin b)
    | .typeForm _ type members => do
      return showAlias type (← members.mapM fun
        | .builtin (.type name) | .builtin (.function name) => return name
        | .builtin (.thing "ellipsis" _) => return "..."
        | member => inside member)
    | .cell .list id => do
      return s!"[{commaSeparated (← (heap.list id).toList.mapM inside)}]"
    | .cell .byteArray id => .ok s!"bytearray(b{quotedBytes (heap.byteArray id).toList})"
    | .cell .dict id => do
      let shown ← (heap.dict id).entries.mapM (pair fun key value => s!"{key}: {value}")
      return "\x7b" ++ commaSeparated shown ++ "\x7d"
    | .cell .dictKeys id => do
      let shown ← (heap.dict (heap.viewed id)).entries.mapM fun (key, _) => inside key
      return s!"dict_keys([{commaSeparated shown}])"
    | .cell .dictValues id => do
      let shown ← (heap.dict (heap.viewed id)).entries.mapM fun (_, value) => inside value
      return s!"dict_values([{commaSeparated shown}])"
    | .cell .dictItems id => do
      let shown ← (heap.dict (heap.viewed id)).entries.mapM
        (pair fun key value => s!"({key}, {value})")
      return s!"dict_items([{commaSeparated shown}])"
    | .process .future _ => .ok "<Future pending>"
    | other => .ok s!"<{other.className}>"

/-- A value in written form. -/
def written (heap : Heap) (v : Value) : Except Fault String :=
  heap.writtenAt nestingLimit [] v

/-- The text of a value. -/
def text (heap : Heap) (v : Value) : Except Fault String :=
  match v with
  | .text s => .ok s
  | .cell .unprintable id =>
    match heap.cell? id with
    | some (.unprintable fault) => .error fault
    | _ => heap.written v
  | v => heap.written v

/-- Several values in written form, as a tuple of them. -/
def writtenTogether (heap : Heap) (vs : List Value) : Except Fault String :=
  showTuple <$> vs.mapM heap.written

/-- The text of a fault made from arguments: nothing, the one argument, or all of them as a tuple.
A missing key is shown in written form, and a system error shows its number. -/
def raisedText (heap : Heap) (cls : FaultClass) (args : List Value) : Except Fault String :=
  match args with
  | [] => .ok ""
  | [one] => if cls = .key then heap.written one else heap.text one
  | [number, message] =>
    if cls.isA .os then do
      return s!"[Errno {← heap.text number}] {← heap.text message}"
    else heap.writtenTogether args
  | args => heap.writtenTogether args

/-- The most bytes of a name that are shown. -/
def nameLimit : Nat :=
  200

/-- The characters of a name as far as `room` bytes hold them; one that is cut through is replaced
by a mark. -/
def cutName (room : Nat) : List Char → List Char
  | [] => []
  | c :: rest =>
    if c.utf8Size ≤ room then c :: cutName (room - c.utf8Size) rest
    else if room = 0 then [] else ['\uFFFD']

/-- The text of a fault. -/
def faultText (heap : Heap) (palette : Diagnostic.Palette) : Fault → Except Fault String
  | .raised cls args => heap.raisedText cls args
  | .unbound name => .ok s!"name '{String.ofList (cutName nameLimit name.toList)}' is not defined"
  | .chunkType type nested => .ok (chunkTypeMessage type nested)
  | .template report _ => .ok report.text
  | .render report _ _ => .ok (report.text palette)
  | .aborted args _ => heap.raisedText .streamAborted args

end Heap

namespace Work

/-- The text of a value. -/
def text (v : Value) : Work String := do
  liftExcept ((← heap).text v)

/-- The written form of a value. -/
def written (v : Value) : Work String := do
  liftExcept ((← heap).written v)

end Work

end StreamTemplate
