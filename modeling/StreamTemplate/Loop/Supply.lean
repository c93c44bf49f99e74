import StreamTemplate.Loop.Task

/-!
# The event loop as the surroundings of its streams

Awaiting a value and asking an iterator for an item become tasks; a stream that listens to a future
takes notice of it when the loop gets there.
-/

namespace StreamTemplate.Store

/-- The future of awaiting a value: a future or task is its own, anything else becomes a task. -/
def startAwaiting (v : Value) : StateM Store Nat := do
  match v with
  | .process .future id | .process .task id => return id
  | .process .coroutine id => newTask id none
  | v => newTask (← newCoroutine (.await v)) none

/-- What an asynchronous iterable is gone through with. -/
def iterator (heap : Heap) (v : Value) (notOne : Fault) : Except Fault Value :=
  match v with
  | .cell .badAsyncIterable id =>
    match heap.cell? id with
    | some (.badAsyncIterable (some fault)) => .error fault
    | _ => .error notOne
  | v => .ok v

/-- The fault of an iterable that a stream cannot go through. -/
def notAsyncIterator : Fault :=
  .say .type "aiter() returned not an async iterator of type 'int'"

/-- The event loop as the surroundings of a stream. -/
def surroundings (stream : Nat) : Surroundings (StateM Store) where
  start v := .ok <$> startAwaiting v
  iterate v := do return iterator (← get).heap v notAsyncIterator
  request v := do newTask (← newCoroutine (.nextItem v)) none
  progress id := do return (← get).progress id
  listen id := listen id (.stream stream)
  ignore id := ignore id (.stream stream)
  wake id := do if (← get).isPending id then complete id (.finished .none)
  dispose
    | .process .coroutine id => (closeCoroutine id).run
    | _ => return .ok ()
  normalize v := do return (← get).heap.normalize v

/-- Does something on a stream. -/
def onStream {α : Type} (id : Nat) (op : Surroundings (StateM Store) → StreamM (StateM Store) α) :
    Act α := do
  match (← get).streams[id]? with
  | none => Act.fail (.noAttribute "NoneType" "push")
  | some stream =>
    let (result, stream) ← Act.always ((op (surroundings id)).run.run stream)
    modify fun s => { s with streams := s.streams.setIfInBounds id stream }
    Act.ofExcept result

end StreamTemplate.Store
