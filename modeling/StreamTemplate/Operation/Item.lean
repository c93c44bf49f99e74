import StreamTemplate.Operation.Bytes

/-!
# Members by index and key

Reading, storing and deleting a member of a container, or a slice of one, and asking whether it is
there.
-/

namespace StreamTemplate

/-- What a list calls an index that is no integer: the name of its type; a text shows it quoted. -/
def indexOwner : Value → String
  | .text _ => "string"
  | .binary .bytes _ => "byte"
  | v => v.typeName

/-- The types that can be given types of members. -/
def containerTypes : List String :=
  ["BaseExceptionGroup", "ExceptionGroup", "dict", "enumerate", "frozenset", "list", "set",
    "tuple", "type"]

namespace Work

/-- An end or the step of a slice. -/
def slicePart (v : Value) : Work (Option Int) :=
  match v with
  | .none => return none
  | v =>
    match v.integer? with
    | some n => return some n
    | none => fail .badSlice

/-- A slice from the values of its parts. -/
def slice (start stop step : Value) : Work Slice := do
  let step := (← slicePart step).getD 1
  if step = 0 then fail .zeroSliceStep
  let start ← slicePart start
  return { start, stop := ← slicePart stop, step }

/-- The integer that an index is, however large. -/
def anyIndexOf (owner index : Value) : Work Int :=
  match index.integer?, owner with
  | some n, _ => return n
  | none, .binary .memoryView _ => fail .badSliceKey
  | none, owner => fail (.badIndex (indexOwner owner) index.typeName)

/-- The integer that an index is. -/
def indexOf (owner index : Value) : Work Int := do
  let n ← anyIndexOf owner index
  if fitsIndex n then return n else fail .indexTooLarge

/-- The place in a sequence that an index means. -/
def placeAt (owner index : Value) (what : String) (size : Nat) : Work Nat := do
  match placeOf? size (← indexOf owner index) with
  | some place => return place
  | none => fail (.outOfRange what)

/-- The member of a sequence at an index. -/
def memberAt {α : Type} (owner index : Value) (what : String) (items : Array α) : Work α := do
  match items[← placeAt owner index what items.size]? with
  | some item => return item
  | none => fail (.outOfRange what)

/-- A type of containers with the given types of members. -/
def typeFormOf (type : String) (members : List Value) : Work Value := do
  if type ∈ containerTypes then return .typeForm (← newIdentity) type members
  else fail (.typeNotSubscriptable type)

/-- The fault of giving a type of containers types of members for the second time. -/
def givenAlready (v : Value) : Work Value := do
  throw (.say .type s!"{← written v} is not a generic class")

/-- The member of a value at an index or under a key. -/
def item (v index : Value) : Work Value := do
  match v with
  | .cell .list id => memberAt v index "list index out of range" ((← heap).list id)
  | .tuple _ items => memberAt v index "tuple index out of range" items.toArray
  | .text s =>
    let c ← memberAt v index "string index out of range" s.toList.toArray
    return .text (String.singleton c)
  | .binary kind data =>
    let what := match kind with
      | .bytes => "index out of range"
      | .memoryView => "index out of bounds on dimension 1"
    return .ofByte (← memberAt v index what data.toArray)
  | .cell .byteArray id =>
    return .ofByte (← memberAt v index "bytearray index out of range" ((← heap).byteArray id))
  | .range _ start stop step =>
    let n ← anyIndexOf v index
    match placeOf? (rangeSize start stop step) n with
    | some place => return .int (start + place * step)
    | none => fail (.outOfRange "range object index out of range")
  | .cell .dict id =>
    match ← valueOf? id index with
    | some value => return value
    | none => fail (.missingKey index)
  | .builtin (.type type) =>
    match index with
    | .tuple _ members => typeFormOf type members
    | index => typeFormOf type [index]
  | .typeForm .. => givenAlready v
  | v => fail (.notSubscriptable v.typeName)

/-- A slice of a value. A slice that is the whole of a tuple is the tuple itself. -/
def itemSlice (v : Value) (start stop step : Value) : Work Value := do
  match v with
  | .cell .list id =>
    let s ← slice start stop step
    newList (s.pick ((← heap).list id)).toArray
  | .tuple _ items =>
    let s ← slice start stop step
    if s.isWhole items.length then return v else newTuple (s.pick items.toArray)
  | .text text =>
    return .text (String.ofList ((← slice start stop step).pick text.toList.toArray))
  | .binary kind data => return .binary kind ((← slice start stop step).pick data.toArray)
  | .cell .byteArray id =>
    let s ← slice start stop step
    newByteArray (s.pick ((← heap).byteArray id))
  | .range _ first last stride =>
    let s ← slice start stop step
    let (start, stop) := s.bounds (rangeSize first last stride)
    return .range (← newIdentity) (first + start * stride) (first + stop * stride)
      (stride * s.step)
  | .cell .dict _ => fail (.unhashable "slice")
  | .builtin (.type type) =>
    let parts ← [start, stop, step].mapM written
    typeFormOf type [.builtin (.thing "slice" s!"slice({commaSeparated parts})")]
  | .typeForm .. => givenAlready v
  | v => fail (.notSubscriptable v.typeName)

/-- Stores a member at an index or under a key. -/
def setItem (v index member : Value) : Work Unit := do
  match v with
  | .cell .list id =>
    let place ← placeAt v index "list assignment index out of range" ((← heap).list id).size
    store id (.list (((← heap).list id).setIfInBounds place member))
  | .cell .byteArray id =>
    let _ ← indexOf v index
    let b ← byteOf member
    let data := (← heap).byteArray id
    let place ← placeAt v index "bytearray index out of range" data.size
    storeBytes id (data.setIfInBounds place b)
  | .cell .dict id => putKey id index member
  | .binary .memoryView _ => fail .readOnlyMemory
  | v => fail (.noItemAssignment v.typeName)

/-- Deletes the member at an index or under a key. -/
def deleteItem (v index : Value) : Work Unit := do
  match v with
  | .cell .list id =>
    let items := (← heap).list id
    let place ← placeAt v index "list assignment index out of range" items.size
    store id (.list (items.toList.eraseIdx place).toArray)
  | .cell .byteArray id =>
    let data := (← heap).byteArray id
    let place ← placeAt v index "bytearray index out of range" data.size
    storeBytes id (data.toList.eraseIdx place).toArray
  | .cell .dict id =>
    match ← takeKey? id index with
    | some _ => return
    | none => fail (.missingKey index)
  | .binary .memoryView _ => fail .readOnlyMemory
  | v =>
    if v.hasMembers && index.integer?.isSome then
      let _ ← indexOf v index
      fail (.noMemberDeletion v.typeName)
    else fail (.noItemDeletion v.typeName)

/-- Deletes a slice of a value. -/
def deleteItemSlice (v : Value) (start stop step : Value) : Work Unit := do
  match v with
  | .cell .list id =>
    let s ← slice start stop step
    store id (.list (s.remove ((← heap).list id)))
  | .cell .byteArray id =>
    let s ← slice start stop step
    storeBytes id (s.remove ((← heap).byteArray id))
  | .cell .dict _ => fail (.unhashable "slice")
  | .binary .memoryView _ => fail .readOnlyMemory
  | v => fail (.noItemDeletion v.typeName)

end Work

/-- Whether a sequence is a run of members of another. -/
def occursIn {α : Type} [BEq α] (part : List α) : List α → Bool
  | [] => part.isEmpty
  | a :: rest => part.isPrefixOf (a :: rest) || occursIn part rest

namespace Act

/-- Replaces a slice of a list by the members of a value. -/
def setMembers (id : Nat) (s : Slice) (member : Value) : Act Unit := do
  match ← cursor? member with
  | none => fail (if s.step = 1 then .assignNonIterable else .stepSliceNonIterable)
  | some c =>
    let given ← drain c
    let items := (← heap).list id
    if s.step = 1 then Work.store id (.list (s.splice given items))
    else
      let wanted := (s.places items.size).length
      if wanted ≠ given.length then fail (.sliceSize "sequence" given.length wanted)
      Work.store id (.list (s.overwrite given items))

/-- Replaces a slice of a value by the members of another. -/
def setItemSlice (v : Value) (start stop step member : Value) : Act Unit := do
  match v with
  | .cell .list id => setMembers id (← Work.slice start stop step) member
  | .cell .byteArray id => setBytes id (← Work.slice start stop step) member
  | .cell .dict _ => fail (.unhashable "slice")
  | .binary .memoryView _ => fail .readOnlyMemory
  | v => fail (.noItemAssignment v.typeName)

/-- Whether a value is among the bytes of a byte string, or a run of them. -/
def bytesHold (whole : List UInt8) (v : Value) : Act Bool := do
  match (← heap).bytes? v, v.integer? with
  | some part, _ => return occursIn part whole
  | none, some n =>
    if n < 0 || n ≥ 256 then fail .byteRange else return whole.contains n.toNat.toUInt8
  | none, none => fail (.notBinary v.typeName)

/-- Whether a value is among the members of another. -/
def contains (v container : Value) : Act Bool := do
  match container with
  | .text whole =>
    match v with
    | .text part => return occursIn part.toList whole.toList
    | v => fail (.textContainer v.typeName)
  | .cell .dict id => return (← Work.lookUp id v).isSome
  | .cell .dictKeys _ | .cell .dictItems _ =>
    let heap ← heap
    match heap.setView? container with
    | some view => ofExcept (Heap.viewShows heap.equal view v)
    | none => return false
  | .range _ start stop step =>
    match v.integer? with
    | some n => return rangeContains start stop step n
    | none => holds (rangeSize start stop step + 1) v (← cursor container)
  | .binary .bytes whole => bytesHold whole v
  | .cell .byteArray id => bytesHold ((← heap).byteArray id).toList v
  | container =>
    match ← cursor? container with
    | some c => holds (bound (← heap) c + 1) v c
    | none => fail (.notContainer container.typeName)

end Act

end StreamTemplate
