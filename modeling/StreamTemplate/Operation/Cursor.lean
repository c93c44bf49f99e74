import StreamTemplate.Loop.Build

/-!
# Going through values

A cursor stands at a place in a sequence. What can change is gone through as it is at each moment,
so members added on the way are met; but a dictionary must keep its size and its keys. A generator
can be gone through once, and its items are built on the way.
-/

namespace StreamTemplate

/-- What a loop over a dictionary meets. -/
inductive DictView where
  | keys
  | values
  | items
  deriving DecidableEq, Repr

/-- What a view shows of an entry. -/
def DictView.show : DictView → Entry → Work Value
  | keys, (key, _) => return key
  | values, (_, value) => return value
  | items, (key, value) => newTuple [key, value]

/-- Where a loop stands in what it goes through. -/
inductive Cursor where
  | members (rest : List Value)
  /-- The list in a cell, from an index on. -/
  | list (cell index : Nat)
  /-- The bytes in a cell, from an index on. -/
  | bytes (cell index : Nat)
  /-- The dictionary in a cell, from a slot on; there are to be `left` more entries, of `used` in
  all. -/
  | dict (view : DictView) (cell place left used : Nat)
  /-- The numbers from `next` on, `left` of them. -/
  | numbers (next step : Int) (left : Nat)
  | generator (cell : Nat)
  /-- A future or task, which is meant to be awaited. -/
  | future (kind : ProcessKind) (id : Nat)

/-- A byte as a value. -/
def Value.ofByte (b : UInt8) : Value :=
  .int b.toNat

namespace Act

/-- The cursor at the start of a value; nothing if it cannot be gone through. -/
def cursor? (v : Value) : Act (Option Cursor) := do
  let heap ← heap
  let dict (view : DictView) (id : Nat) : Cursor :=
    let used := (heap.dict id).used
    .dict view id 0 used used
  match v with
  | .text s => return some (.members (s.toList.map fun c => .text (String.singleton c)))
  | .binary _ data => return some (.members (data.map .ofByte))
  | .tuple _ items => return some (.members items)
  | .range _ start stop step => return some (.numbers start step (rangeSize start stop step))
  | .cell .list id => return some (.list id 0)
  | .cell .byteArray id => return some (.bytes id 0)
  | .cell .dict id => return some (dict .keys id)
  | .cell .dictKeys id => return some (dict .keys (heap.viewed id))
  | .cell .dictValues id => return some (dict .values (heap.viewed id))
  | .cell .dictItems id => return some (dict .items (heap.viewed id))
  | .cell .generator id => return some (.generator id)
  | .process .future id => return some (.future .future id)
  | .process .task id => return some (.future .task id)
  | _ => return none

/-- The cursor at the start of a value. -/
def cursor (v : Value) : Act Cursor := do
  match ← cursor? v with
  | some c => return c
  | none => fail (.notIterable v.typeName)

/-- A fault that leaves a generator; the signal for the end of a loop is an error there. -/
def leavingGenerator (f : Fault) : Fault :=
  if f.isA .stopIteration then .say .runtime "generator raised StopIteration" else f

/-- The next item of the generator in a cell; nothing at its end. A fault ends it. -/
def generate (id : Nat) : Act (Option Value) := do
  match (← heap).cell? id with
  | some (.generator (item :: rest)) =>
    match ← attempt item.produce with
    | .ok v =>
      Work.store id (.generator rest)
      return some v
    | .error fault =>
      Work.store id (.generator [])
      throw (leavingGenerator fault)
  | _ => return none

/-- What going through a future meets: while it is pending the future itself, but only once; when it
is done nothing, or the fault that it delivers. -/
def claim (kind : ProcessKind) (id : Nat) : Act (Option Value) := do
  let s ← get
  if s.isPending id && !s.isClaimed id then
    always (Store.modifyFuture id fun f => { f with claimed := true })
    return some (.process kind id)
  else
    let _ ← ofExcept (s.progress id).deliver
    return none

/-- The member at a cursor and the cursor behind it; nothing at the end. -/
def advance (c : Cursor) : Act (Option (Value × Cursor)) := do
  match c with
  | .members [] => return none
  | .members (v :: rest) => return some (v, .members rest)
  | .list id index => return ((← heap).list id)[index]?.map (·, .list id (index + 1))
  | .bytes id index =>
    return ((← heap).byteArray id)[index]?.map (.ofByte ·, .bytes id (index + 1))
  | .dict view id place left used =>
    let entries := (← heap).dict id
    if entries.used ≠ used then fail .sizeChanged
    match entries.next? place with
    | none => return none
    | some (place, entry) =>
      if left = 0 then fail .keysChanged
      return some (← view.show entry, .dict view id (place + 1) (left - 1) used)
  | .numbers _ _ 0 => return none
  | .numbers next step (left + 1) => return some (.int next, .numbers (next + step) step left)
  | .generator id => return (← generate id).map (·, c)
  | .future kind id => return (← claim kind id).map (·, c)

/-- The members from a cursor on, `limit` of them at most, and the cursor behind them. -/
def take (limit : Nat) (c : Cursor) : Act (List Value × Cursor) :=
  match limit with
  | 0 => return ([], c)
  | limit + 1 => do
    match ← advance c with
    | none => return ([], c)
    | some (v, c) =>
      let (rest, c) ← take limit c
      return (v :: rest, c)

/-- How many members there can be behind a cursor. -/
def bound (heap : Heap) : Cursor → Nat
  | .members rest => rest.length
  | .list id _ => (heap.list id).size
  | .bytes id _ => (heap.byteArray id).size
  | .dict _ id .. => (heap.dict id).used
  | .numbers _ _ left => left
  | .generator id =>
    match heap.cell? id with
    | some (.generator items) => items.length
    | _ => 0
  | .future .. => 1

/-- How many members there can be behind a cursor, if they are not too many to be had at once. -/
def boundOf (c : Cursor) : Act Nat := do
  let size := bound (← heap) c
  if !fitsIndex size then fail .lengthTooLarge
  if size > memberLimit then fail .outOfMemory
  return size

/-- The members from a cursor to the end. -/
def drain (c : Cursor) : Act (List Value) := do
  return (← take ((← boundOf c) + 1) c).1

/-- All members of a value. -/
def members (v : Value) : Act (List Value) := do
  drain (← cursor v)

/-- The members from a cursor on, `limit` of them at most, and the fault that keeps more from
coming, if there is one. -/
def takeUntilFault (limit : Nat) (c : Cursor) : Act (List Value × Option Fault) :=
  match limit with
  | 0 => return ([], none)
  | limit + 1 => do
    match ← attempt (advance c) with
    | .error fault => return ([], some fault)
    | .ok none => return ([], none)
    | .ok (some (v, c)) =>
      let (rest, fault) ← takeUntilFault limit c
      return (v :: rest, fault)

/-- Appends the members of a value to the list in a cell. Those of a list or a tuple are there all
at once; of anything else, those before a fault are kept. -/
def extend (id : Nat) (v : Value) : Act Unit := do
  match v with
  | .tuple _ items => Work.store id (.list ((← heap).list id ++ items.toArray))
  | .cell .list other => Work.store id (.list ((← heap).list id ++ (← heap).list other))
  | v =>
    let c ← cursor v
    let (more, fault) ← takeUntilFault ((← boundOf c) + 1) c
    Work.store id (.list ((← heap).list id ++ more.toArray))
    match fault with
    | some fault => throw fault
    | none => return

/-- Whether some member behind a cursor is equal to a value, going no further than needed. -/
def holds (limit : Nat) (v : Value) (c : Cursor) : Act Bool :=
  match limit with
  | 0 => return false
  | limit + 1 => do
    match ← advance c with
    | none => return false
    | some (member, c) => if ← Work.matching member v then return true else holds limit v c

/-- The members of a value for `count` targets; more or fewer are an error. -/
def unpack (count : Nat) (v : Value) : Act (List Value) := do
  match ← cursor? v with
  | none => fail (.notUnpackable v.typeName)
  | some c =>
    let (parts, c) ← take count c
    if parts.length < count then fail (.tooFewValues count parts.length false)
    match ← advance c with
    | none => return parts
    | some _ => fail (.tooManyValues count)

/-- The members of a value for `before` targets, a target for all that lie between, and `after`
targets. -/
def unpackAround (before after : Nat) (v : Value) :
    Act (List Value × List Value × List Value) := do
  match ← cursor? v with
  | none => fail (.notUnpackable v.typeName)
  | some c =>
    let (front, c) ← take before c
    if front.length < before then fail (.tooFewValues (before + after) front.length true)
    let rest ← drain c
    if rest.length < after then
      fail (.tooFewValues (before + after) (before + rest.length) true)
    let middle := rest.length - after
    return (front, rest.take middle, rest.drop middle)

end Act

end StreamTemplate
