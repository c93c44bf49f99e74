import StreamTemplate.Operation.Cursor
import StreamTemplate.Operation.Slice

/-!
# Byte strings that can be changed

Their members are integers from 0 to 255, and what is put into them must be such an integer, another
byte string or something that has such integers as its members. While a byte string is being read it
cannot grow.
-/

namespace StreamTemplate

namespace Work

/-- An argument that must be an integer. -/
def integerArgument (v : Value) : Work Int :=
  match v.integer? with
  | some n => return n
  | none => fail (.notInteger v.typeName)

/-- A value as a byte. -/
def byteOf (v : Value) : Work UInt8 := do
  let n ← integerArgument v
  if n < 0 || n ≥ 256 then fail .byteRange else return n.toNat.toUInt8

/-- Puts bytes into a cell. -/
def storeBytes (id : Nat) (data : Array UInt8) : Work Unit :=
  store id (.byteArray data)

/-- Adds a byte at the end. -/
def appendByte (id : Nat) (v : Value) : Work Unit := do
  pushByte id (← byteOf v)

/-- Removes and returns the byte at an index. -/
def popByte (id : Nat) (index : Int) : Work Value := do
  let data := (← heap).byteArray id
  if data.isEmpty then fail (.popFromEmpty "bytearray")
  match (placeOf? data.size index).bind fun place => data[place]?.map (place, ·) with
  | some (place, b) =>
    storeBytes id (data.toList.eraseIdx place).toArray
    return .ofByte b
  | none => fail (.outOfRange "pop index out of range")

/-- Adds the bytes of a byte string at the end. -/
def extendBytes (id : Nat) (v : Value) : Work Unit := do
  let heap ← heap
  match heap.bytes? v with
  | none => fail (.concatenate "bytearray" v.typeName)
  | some more =>
    if v.same (.cell .byteArray id) && !more.isEmpty then fail .exported
    storeBytes id (heap.byteArray id ++ more.toArray)

end Work

namespace Act

/-- Refuses what counts as a single number or as text where bytes are to be assigned. -/
def checkBytes (v : Value) : Act Unit :=
  match v.numeric?, v with
  | some _, _ | _, .text _ => fail .noBytes
  | _, _ => return

/-- The bytes that a value brings when it is assigned to a slice. -/
def bytesFrom (v : Value) : Act (List UInt8) := do
  match (← heap).bytes? v with
  | some data => return data
  | none =>
    checkBytes v
    match ← cursor? v with
    | none => fail (.notByteArray v.typeName)
    | some c => (← drain c).mapM fun member => Work.byteOf member

/-- Replaces a slice by bytes; none at all close up the gap. -/
def setBytes (id : Nat) (s : Slice) (v : Value) : Act Unit := do
  let given ← bytesFrom v
  let data := (← heap).byteArray id
  if s.step = 1 then Work.storeBytes id (s.splice given data)
  else if given.isEmpty then Work.storeBytes id (s.remove data)
  else
    let wanted := (s.places data.size).length
    if wanted ≠ given.length then fail (.sliceSize "bytes" given.length wanted)
    Work.storeBytes id (s.overwrite given data)

end Act

end StreamTemplate
