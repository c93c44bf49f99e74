import StreamTemplate.Loop.Store

/-!
# Coroutines, futures and tasks

How they come into being, are completed and cancelled. Completing a future makes ready whoever
listens to it; nothing runs at once.
-/

namespace StreamTemplate

/-- What becomes ready when a future is completed, for one of its listeners. -/
def Listener.whenDone (future : Nat) : Listener → Ready
  | .task id => .wake id future
  | .stream id => .notice id future

/-- The fault of code that goes on before the future it waits for is done. -/
def resumedEarly : Fault :=
  .say .runtime "await wasn't used with future"

/-- What a future that is done delivers. -/
def Progress.deliver : Progress → Except Fault Value
  | .pending => .error resumedEarly
  | .finished v => .ok v
  | .failed fault => .error fault
  | .cancelled => .error .cancelled

namespace Store

/-! ### Coroutines and generators -/

/-- A new coroutine. -/
def newCoroutine (body : Body) : StateM Store Nat :=
  modifyGet fun s =>
    (s.coroutines.size, { s with coroutines := s.coroutines.push { body } })

/-- The state of a coroutine. -/
def coroutineState (s : Store) (id : Nat) : CoroutineState :=
  (s.coroutines[id]?.map (·.state)).getD .closed

/-- Changes the state of a coroutine. -/
def setCoroutine (s : Store) (id : Nat) (state : CoroutineState) : Store :=
  { s with coroutines := s.coroutines.modify id fun c => { c with state } }

/-- A new asynchronous generator. -/
def newGenerator (body : GeneratorBody) : StateM Store Nat :=
  modifyGet fun s =>
    (s.generators.size, { s with generators := s.generators.push { body } })

/-- Changes an asynchronous generator. -/
def setGenerator (s : Store) (id : Nat) (g : Generator) : Store :=
  { s with generators := s.generators.setIfInBounds id g }

/-- The fault of acting on a coroutine that is just running. -/
def executing : Fault :=
  .say .value "coroutine already executing"

/-- Closes a coroutine; one that is running cannot be. -/
def closeCoroutine (id : Nat) : Act Unit := do
  if (← get).coroutineState id = .running then throw executing
  modify fun s => s.setCoroutine id .closed

/-! ### Futures and tasks -/

/-- A new future. -/
def newFuture : StateM Store Nat :=
  modifyGet fun s => (s.futures.size, { s with futures := s.futures.push {} })

/-- A new task for a coroutine, ready to run. -/
def newTask (coroutine : Nat) (report : Option String) : StateM Store Nat := do
  let s ← get
  let id := s.futures.size
  let task : TaskState := { coroutine, context := s.context, report }
  set { s with futures := s.futures.push { task := some task } }
  enqueue (.step id none)
  return id

/-- What has become of a future. -/
def progress (s : Store) (id : Nat) : Progress :=
  (s.futures[id]?.map (·.progress)).getD .cancelled

/-- Whether a future is still pending. -/
def isPending (s : Store) (id : Nat) : Bool :=
  match s.progress id with
  | .pending => true
  | _ => false

/-- Whether a future has been gone through while it was pending. -/
def isClaimed (s : Store) (id : Nat) : Bool :=
  (s.futures[id]?).any (·.claimed)

/-- Changes a future. -/
def modifyFuture (id : Nat) (f : Future → Future) : StateM Store Unit :=
  modify fun s => { s with futures := s.futures.modify id f }

/-- Changes the task that a future is. -/
def modifyTask (id : Nat) (f : TaskState → TaskState) : StateM Store Unit :=
  modifyFuture id fun future => { future with task := future.task.map f }

/-- Completes a future and tells its listeners. -/
def complete (id : Nat) (progress : Progress) : StateM Store Unit := do
  match (← get).futures[id]? with
  | none => return
  | some future =>
    modifyFuture id fun f => { f with progress, listeners := [] }
    future.listeners.forM fun listener => enqueue (listener.whenDone id)

/-- Adds a listener to a future; if it is done already the listener is told at once. -/
def listen (id : Nat) (listener : Listener) : StateM Store Unit := do
  if (← get).isPending id then
    modifyFuture id fun f => { f with listeners := f.listeners ++ [listener] }
  else enqueue (listener.whenDone id)

/-- Removes a listener from a future. -/
def ignore (id : Nat) (listener : Listener) : StateM Store Unit :=
  modifyFuture id fun f => { f with listeners := f.listeners.filter (· ≠ listener) }

/-- Cancels a future, or what the task that it is waits for, and so on; a task that waits for
nothing is cancelled when it next runs. The result tells whether there was anything to cancel. -/
def cancelWithin : Nat → Nat → StateM Store Bool
  | 0, _ => return false
  | depth + 1, id => do
    let s ← get
    if !s.isPending id then return false
    match s.futures[id]?.bind (·.task) with
    | none =>
      complete id .cancelled
      return true
    | some task =>
      let passedOn ← match task.waiting with
        | some future => cancelWithin depth future
        | none => pure false
      unless passedOn do modifyTask id fun t => { t with mustCancel := true }
      return true

/-- Cancels a future or a task. -/
def cancel (id : Nat) : StateM Store Bool := do
  cancelWithin ((← get).futures.size + 1) id

/-- The future of a gate; a gate that was never heard of is new. -/
def gate (name : String) : StateM Store Nat := do
  match (← get).gates.lookup name with
  | some id => return id
  | none =>
    let id ← newFuture
    modify fun s => { s with gates := (name, id) :: s.gates }
    return id

end Store

end StreamTemplate
