import StreamTemplate.Loop.Task
import StreamTemplate.Value.Key
import StreamTemplate.Value.Raise

/-!
# Building values from recipes

Each time a recipe is followed it gives a value of its own, except where it names a gate or a value
that was built before. What an iterator or something to be awaited holds is built when its time has
come, not before.
-/

namespace StreamTemplate

/-- A value in a new cell. -/
def newCell (kind : CellKind) (cell : Cell) : Work Value :=
  return .cell kind (← Work.alloc cell)

/-- A fault of a class made from arguments. -/
def makeFault (cls : FaultClass) (args : List Value) : Act Fault :=
  Act.view (·.makeFault cls args)

/-- An object with attributes. -/
def newObject (attrs : List (String × Value)) : Work Value := do
  let id ← Work.alloc .object
  Work.setAttributes (.cell id) (uniteNamed attrs)
  return .cell .object id

mutual

/-- Follows a recipe. -/
def Recipe.build : Recipe → Act Value
  | .none => return .none
  | .bool b => return .bool b
  | .int n => return .int n
  | .float x => newFloat x
  | .text s => return .text s
  | .binary kind data => return .binary kind data
  | .byteArray data => newByteArray data
  | .list items => do newList (← buildAll items).toArray
  | .tuple items => do newTuple (← buildAll items)
  | .dict entries => do newDict (← buildEntries entries)
  | .coroutine steps =>
    return .process .coroutine (← Act.always (Store.newCoroutine (.script steps)))
  | .asyncGenerator steps =>
    return .process .asyncGenerator (← Act.always (Store.newGenerator (.script steps)))
  | .task steps => do
    let coroutine ← Act.always (Store.newCoroutine (.script steps))
    return .process .task (← Act.always (Store.newTask coroutine none))
  | .gate name => return .process .future (← Act.always (Store.gate name))
  | .awaitable result => newCell .awaitable (.awaitable result)
  | .asyncItems items => newCell .asyncItems (.asyncItems items none)
  | .asyncBoth result items => newCell .asyncBoth (.asyncItems items (some result))
  | .badAsyncIterable none => newCell .badAsyncIterable (.badAsyncIterable none)
  | .badAsyncIterable (some fault) => do
    newCell .badAsyncIterable (.badAsyncIterable (some (← fault.prepare)))
  | .generator items => newCell .generator (.generator items)
  | .object attrs => do newObject (← buildNamed attrs)
  | .unprintable fault => do newCell .unprintable (.unprintable (← fault.prepare))
  | .function script => newCell .function (.function script)
  | .shared name => return ((← get).shared.lookup name).getD .none

/-- Follows recipes in order. -/
def buildAll : List Recipe → Act (List Value)
  | [] => return []
  | r :: rest => do
    let v ← r.build
    return v :: (← buildAll rest)

/-- Follows the recipes of dictionary entries. -/
def buildEntries : List (Recipe × Recipe) → Act (List Entry)
  | [] => return []
  | (key, value) :: rest => do
    let key ← key.build
    let value ← value.build
    return (key, value) :: (← buildEntries rest)

/-- Follows the recipes of named values. -/
def buildNamed : List (String × Recipe) → Act (List (String × Value))
  | [] => return []
  | (name, value) :: rest => do
    let value ← value.build
    return (name, value) :: (← buildNamed rest)

/-- Follows the recipe of a fault. -/
def FaultRecipe.build : FaultRecipe → Act Fault
  | .mk cls args => do makeFault cls (← buildAll args)

/-- The fault that raising a fault by its recipe raises: if it cannot be made, the one that tells
why. -/
def FaultRecipe.prepare (recipe : FaultRecipe) : Act Fault := do
  match ← Act.attempt recipe.build with
  | .ok fault => return fault
  | .error fault => return fault

end

/-- What an iterator produces in the turn of an item: a value, or the fault in its place. -/
def Item.produce : Item → Act Value
  | .value v => v.build
  | .fault f => do throw (← f.build)

end StreamTemplate
