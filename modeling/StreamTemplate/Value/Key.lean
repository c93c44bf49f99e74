import StreamTemplate.Value.Compare

/-!
# Looking up keys

A key is found in a dictionary by being the same as, or equal to, the key of an entry. What can
change is no key.
-/

namespace StreamTemplate

namespace Work

/-- Refuses a value that cannot be a key. -/
def checkKey (key : Value) : Work Unit :=
  match key.changeable? with
  | some type => fail (.unhashable type)
  | none => pure ()

/-- The slot of the entry with a key, among those from a place on. -/
def findSlot (place : Nat) (key : Value) : List (Option Entry) → Work (Option Nat)
  | [] => return none
  | none :: rest => findSlot (place + 1) key rest
  | some (other, _) :: rest => do
    if ← matching other key then return some place else findSlot (place + 1) key rest

/-- The slot of the entry with a key in the dictionary of a cell; the key must be one. -/
def lookUp (id : Nat) (key : Value) : Work (Option Nat) := do
  checkKey key
  findSlot 0 key ((← heap).dict id).slots.toList

/-- The value under a key in the dictionary of a cell. -/
def valueOf? (id : Nat) (key : Value) : Work (Option Value) := do
  let place ← lookUp id key
  let entries := (← heap).dict id
  return (place.bind entries.entry?).map (·.2)

/-- Stores a value under a key in the dictionary of a cell. -/
def putKey (id : Nat) (key value : Value) : Work Unit := do
  let place ← lookUp id key
  let entries := (← heap).dict id
  store id <| .dict <|
    match place with
    | some place => entries.replace place value
    | none => entries.add key value

/-- Takes away the entry with a key from the dictionary of a cell and gives its value. -/
def takeKey? (id : Nat) (key : Value) : Work (Option Value) := do
  let place ← lookUp id key
  let entries := (← heap).dict id
  match place.bind fun place => (entries.entry? place).map (place, ·.2) with
  | some (place, v) =>
    store id (.dict (entries.erase place))
    return some v
  | none => return none

end Work

/-- A dictionary with the given entries, put in one after the other. -/
def newDict (entries : List Entry) : Work Value := do
  let id ← Work.alloc (.dict {})
  entries.forM fun (key, value) => Work.putKey id key value
  return .cell .dict id

end StreamTemplate
