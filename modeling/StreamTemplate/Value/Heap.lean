import StreamTemplate.Value.Dict
import StreamTemplate.Value.Recipe

/-!
# The heap

Data that can change lives in numbered cells. Beside the cells the heap knows how many identities it
has given to values that have one, and which attributes their owners have been given. `Work` is a
computation on the heap that may fail; what it did to the heap before it failed stays done.
-/

namespace StreamTemplate

/-- What a cell holds. Iterators and things to be awaited hold recipes, which are followed only when
their time has come. -/
inductive Cell where
  | list (items : Array Value)
  | dict (entries : Dict)
  /-- A view of the dictionary in another cell. -/
  | dictView (dict : Nat)
  | byteArray (data : Array UInt8)
  /-- Something that has nothing but attributes. -/
  | object
  | unprintable (fault : Fault)
  | function (script : FunctionScript)
  | awaitable (result : Recipe)
  | asyncItems (items : List Item) (result : Option Recipe)
  | badAsyncIterable (fault : Option Fault)
  | generator (items : List Item)

/-- What can be given attributes. -/
inductive Owner where
  | cell (id : Nat)
  | future (id : Nat)
  deriving DecidableEq, Repr

/-- The owner of the attributes of a value; nothing if it cannot be given any. -/
def Value.owner? : Value → Option Owner
  | .cell .object id | .cell .unprintable id | .cell .function id | .cell .awaitable id
  | .cell .asyncItems id | .cell .asyncBoth id | .cell .badAsyncIterable id => some (.cell id)
  | .process .future id | .process .task id => some (.future id)
  | _ => .none

/-- The cells, by number, and what is known of values besides. -/
structure Heap where
  cells : Array Cell := #[]
  /-- How many identities have been given. -/
  identities : Nat := 0
  /-- The attributes of owners that have some. -/
  attributes : List (Owner × List (String × Value)) := []

instance : Inhabited Heap := ⟨{}⟩

/-- Gives a name a value among others: in the place of the name, or behind them all. -/
def putNamed {α : Type} (name : String) (a : α) : List (String × α) → List (String × α)
  | [] => [(name, a)]
  | (other, b) :: rest =>
    if other = name then (name, a) :: rest else (other, b) :: putNamed name a rest

/-- Names with values, each name once: it stands where it came first, and its last value counts. -/
def uniteNamed {α : Type} (entries : List (String × α)) : List (String × α) :=
  entries.foldl (fun named (name, a) => putNamed name a named) []

/-- A computation on the heap that may fail. -/
abbrev Work (α : Type) := ExceptT Fault (StateM Heap) α

namespace Work

/-- Fails. -/
def fail {α : Type} (fault : ValueFault) : Work α :=
  throw fault.toFault

/-- A result that is there or a fault. -/
def liftExcept {α : Type} : Except Fault α → Work α
  | .ok a => pure a
  | .error fault => throw fault

/-- The heap. -/
def heap : Work Heap :=
  get

/-- Puts something into a new cell. -/
def alloc (cell : Cell) : Work Nat :=
  modifyGet fun heap => (heap.cells.size, { heap with cells := heap.cells.push cell })

/-- Puts something into an existing cell. -/
def store (id : Nat) (cell : Cell) : Work Unit :=
  modify fun heap => { heap with cells := heap.cells.setIfInBounds id cell }

/-- Adds an item to the list in a cell. -/
def pushItem (id : Nat) (v : Value) : Work Unit :=
  modify fun heap =>
    { heap with
      cells := heap.cells.modify id fun
        | .list items => .list (items.push v)
        | cell => cell }

/-- Adds a byte to the byte string in a cell. -/
def pushByte (id : Nat) (b : UInt8) : Work Unit :=
  modify fun heap =>
    { heap with
      cells := heap.cells.modify id fun
        | .byteArray data => .byteArray (data.push b)
        | cell => cell }

/-- A new identity. -/
def newIdentity : Work Identity :=
  modifyGet fun heap => (.made heap.identities, { heap with identities := heap.identities + 1 })

/-- Gives an owner other attributes. -/
def setAttributes (owner : Owner) (attrs : List (String × Value)) : Work Unit :=
  modify fun heap =>
    { heap with attributes := (owner, attrs) :: heap.attributes.filter (·.1 ≠ owner) }

end Work

namespace Heap

/-- What a cell holds. -/
def cell? (heap : Heap) (id : Nat) : Option Cell :=
  heap.cells[id]?

/-- The items of the list in a cell. -/
def list (heap : Heap) (id : Nat) : Array Value :=
  match heap.cell? id with
  | some (.list items) => items
  | _ => #[]

/-- The dictionary in a cell. -/
def dict (heap : Heap) (id : Nat) : Dict :=
  match heap.cell? id with
  | some (.dict entries) => entries
  | _ => {}

/-- The cell of the dictionary that the view in a cell shows. -/
def viewed (heap : Heap) (id : Nat) : Nat :=
  match heap.cell? id with
  | some (.dictView dict) => dict
  | _ => id

/-- The bytes in a cell. -/
def byteArray (heap : Heap) (id : Nat) : Array UInt8 :=
  match heap.cell? id with
  | some (.byteArray data) => data
  | _ => #[]

/-- The bytes of a byte string of any kind. -/
def bytes? (heap : Heap) : Value → Option (List UInt8)
  | .binary _ data => some data
  | .cell .byteArray id => some (heap.byteArray id).toList
  | _ => none

/-- The attributes of an owner. -/
def attributesOf (heap : Heap) (owner : Owner) : List (String × Value) :=
  ((heap.attributes.find? (·.1 = owner)).map (·.2)).getD []

end Heap

/-- A new floating-point number. -/
def newFloat (x : Float) : Work Value :=
  return .float (← Work.newIdentity) x

/-- A new tuple. -/
def newTuple (items : List Value) : Work Value :=
  return .tuple (← Work.newIdentity) items

/-- A new list. -/
def newList (items : Array Value) : Work Value :=
  return .cell .list (← Work.alloc (.list items))

/-- A new byte string that can be changed. -/
def newByteArray (data : List UInt8) : Work Value :=
  return .cell .byteArray (← Work.alloc (.byteArray data.toArray))

end StreamTemplate
