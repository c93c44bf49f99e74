import StreamTemplate.Loop.Build
import StreamTemplate.Loop.Context
import StreamTemplate.Loop.Process
import StreamTemplate.Loop.Supply

/-!
# Awaiting

What happens when running code awaits a value or asks an asynchronous iterator for its next item. A
coroutine that is awaited runs inside the code that awaits it; both wait together. It can be awaited
once only, and it can be closed while it waits.
-/

namespace StreamTemplate

/-- How the code of coroutines and generators is run. -/
structure Engine where
  /-- Runs the body of a coroutine. -/
  body : Body → Run Value
  /-- Asks an asynchronous iterator for its next item; at its end it raises the signal for that. -/
  next : Value → Run Value

/-! ### Futures -/

/-- Awaits a future. -/
def awaitFuture (id : Nat) : Run Value := do
  let s ← Run.act get
  if s.isPending id then
    if s.isClaimed id then throw resumedEarly else Run.wait (.future id)
  Run.ofExcept ((← Run.act get).progress id).deliver

/-! ### Coroutines -/

/-- The fault of awaiting a coroutine that has run already. -/
def spent : Fault :=
  .say .runtime "cannot reuse already awaited coroutine"

/-- The fault of awaiting a coroutine that something else awaits. -/
def alreadyAwaited : Fault :=
  .say .runtime "coroutine is being awaited already"

/-- A fault that leaves a coroutine; the signal for the end of a loop is an error there. -/
def leavingCoroutine (f : Fault) : Fault :=
  if f.isA .stopIteration then .say .runtime "coroutine raised StopIteration" else f

/-- The future that is waited for. -/
def Wait.future? : Wait → Option Nat
  | .turn => none
  | .future id => some id

/-- Runs the code of a coroutine and keeps its state. If it was closed while it waited, it does not
go on, and the render context `before` that was current when it began is current again. -/
def superviseCoroutine (id : Nat) (before : Option Nat) :
    Process Store (Except Fault Value) → Process Store (Except Fault Value)
  | .done r => .act (modify (·.setCoroutine id .closed)) fun () =>
    .done (r.mapError leavingCoroutine)
  | .stuck => .stuck
  | .act x k => .act x fun b => superviseCoroutine id before (k b)
  | .wait w k => .act (modify (·.setCoroutine id (.suspended w.future?))) fun () =>
    .wait w fun thrown => .act get fun s =>
      if s.coroutineState id = .closed then
        .act (Store.setContext before) fun () => .done (.error spent)
      else .act (modify (·.setCoroutine id .running)) fun () =>
        superviseCoroutine id before (k thrown)

/-- Runs a coroutine from its beginning. -/
def runCoroutine (e : Engine) (id : Nat) : Run Value := do
  let s ← Run.act get
  match s.coroutines[id]? with
  | none => throw spent
  | some c =>
    Run.act (modify fun s => s.setCoroutine id .running)
    ExceptT.mk (superviseCoroutine id s.context (e.body c.body).run)

/-- Awaits a coroutine. -/
def awaitCoroutine (e : Engine) (id : Nat) : Run Value := do
  match (← Run.act get).coroutineState id with
  | .created => runCoroutine e id
  | .running => throw Store.executing
  | .suspended _ => throw alreadyAwaited
  | .closed => throw spent

/-- Joins in waiting for a coroutine that something else runs; once that is over there is nothing
left to run. -/
def joinCoroutine (id : Nat) : Nat → Run Value
  | 0 => Run.stuck
  | rounds + 1 => do
    match (← Run.act get).coroutineState id with
    | .suspended future =>
      let waited ← Run.attempt (Run.wait (future.elim .turn .future))
      match waited with
      | .ok () => joinCoroutine id rounds
      | .error fault =>
        Run.act (modify fun s => s.setCoroutine id .closed)
        throw fault
    | .running => throw Store.executing
    | _ => throw spent

/-- What the task of a coroutine runs. A fault thrown in before the coroutine has begun ends it. -/
def taskMain (e : Engine) (id : Nat) (thrown : Option Fault) : Run Value := do
  match (← Run.act get).coroutineState id, thrown with
  | .created, none => runCoroutine e id
  | .created, some fault =>
    Run.act (modify fun s => s.setCoroutine id .closed)
    throw fault
  | .suspended _, some fault =>
    Run.act (modify fun s => s.setCoroutine id .closed)
    throw fault
  | .suspended _, none => joinCoroutine id patience
  | .running, _ => throw Store.executing
  | .closed, _ => throw spent

/-- Awaits a value. -/
def awaitValue (e : Engine) (v : Value) : Run Value := do
  match v with
  | .process .coroutine id => awaitCoroutine e id
  | .process .future id | .process .task id => awaitFuture id
  | .cell .awaitable id | .cell .asyncBoth id =>
    match (← Run.act Act.heap).cell? id with
    | some (.awaitable result) => Run.act result.build
    | some (.asyncItems _ (some result)) => Run.act result.build
    | _ => return .none
  | v => Run.fail (.notAwaitable v.typeName)

/-! ### Asynchronous iteration -/

/-- The signal that an asynchronous iterator is exhausted. -/
def exhausted : Fault :=
  .raised .stopAsyncIteration []

/-- A fault that leaves an asynchronous generator; the signals for the end of a loop are errors
there. -/
def leavingAsyncGenerator (f : Fault) : Fault :=
  if f.isA .stopIteration then .say .runtime "async generator raised StopIteration"
  else if f.isA .stopAsyncIteration then
    .say .runtime "async generator raised StopAsyncIteration"
  else f

/-- What a loop goes through an asynchronous iterable with. -/
def asyncIterator (v : Value) : Run Value := do
  if !v.isAsyncIterable then Run.fail (.notAsyncIterable v.typeName)
  Run.ofExcept (Store.iterator (← Run.act get).heap v ValueFault.badAsyncIterator.toFault)

/-- The next item, or nothing at the end. -/
def nextOrEnd (e : Engine) (iterator : Value) : Run (Option Value) := do
  match ← Run.attempt (e.next iterator) with
  | .ok v => return some v
  | .error fault => if fault.isA .stopAsyncIteration then return none else throw fault

/-- Puts the items of an asynchronous iterable before what there is already, so that the last comes
first. -/
def collectOnto (e : Engine) (iterator : Value) (items : List Value) : Nat → Run (List Value)
  | 0 => Run.stuck
  | rounds + 1 => do
    match ← nextOrEnd e iterator with
    | none => return items
    | some v => collectOnto e iterator (v :: items) rounds

/-- The items of an asynchronous iterable, in order. -/
def collectItems (e : Engine) (iterator : Value) : Run (List Value) :=
  return (← collectOnto e iterator [] patience).reverse

/-- The next item of an iterator that has its items in a cell. Each is built, and returned or
raised, in its turn, and it can go on after a fault. -/
def nextStored (id : Nat) : Run Value := do
  match (← Run.act Act.heap).cell? id with
  | some (.asyncItems (item :: rest) result) =>
    Run.work (Work.store id (.asyncItems rest result))
    let produced ← Run.attempt (Run.act item.produce)
    Run.ofExcept (produced.mapError leavingCoroutine)
  | _ => throw exhausted

/-! ### Scripts -/

/-- Where a script has come to. -/
inductive ScriptHalt where
  | returned (v : Value)
  | yielded (v : Value) (rest : List Step)

/-- Awaits the future of a gate. -/
def awaitGate (name : String) : Run Value := do
  awaitFuture (← Run.act (Act.always (Store.gate name)))

/-- Gives up control a number of times. -/
def sleep : Nat → Run Unit
  | 0 => return
  | turns + 1 => do
    Run.wait .turn
    sleep turns

/-- The stream that scripts act on. -/
def currentStream : Act Nat := do
  match (← get).stream with
  | some id => return id
  | none => Act.fail (.noAttribute "NoneType" "push")

/-- Feeds a chunk to a stream. -/
def pushChunk (stream : Nat) (chunk : Value) : Act Unit := do
  let members := (← get).heap.chunkMembers chunk
  Store.onStream stream (ChunkStream.push · members)

/-- A fault that may be absent. -/
def buildFault? : Option FaultRecipe → Act (Option Fault)
  | none => return none
  | some recipe => return some (← recipe.build)

/-- Runs a script until it returns or yields. -/
def runScript : List Step → Run ScriptHalt
  | [] => return .returned .none
  | step :: rest => do
    match step with
    | .log text =>
      Run.act (modify fun s => { s with log := text :: s.log })
      runScript rest
    | .wait gate =>
      let _ ← awaitGate gate
      runScript rest
    | .sleep turns =>
      sleep turns
      runScript rest
    | .push chunk =>
      Run.act do pushChunk (← currentStream) (← chunk.build)
      runScript rest
    | .close fault =>
      Run.act do
        let fault ← buildFault? fault
        Store.onStream (← currentStream) (ChunkStream.close · fault)
      runScript rest
    | .abort fault =>
      Run.act do
        let fault ← buildFault? fault
        Store.onStream (← currentStream) (ChunkStream.abort · fault)
      runScript rest
    | .raise fault => throw (← Run.act fault.build)
    | .return result => return .returned (← Run.act result.build)
    | .returnGate gate => return .returned (← awaitGate gate)
    | .yield item => return .yielded (← Run.act item.build) rest
    | .yieldGate gate => return .yielded (← awaitGate gate) rest

/-! ### Asynchronous generators -/

/-- Runs a generator until it yields: the item, and what it has still to do. Each stretch of a
script runs as a coroutine of its own. -/
def runGenerator (e : Engine) : GeneratorBody → Run (Option (Value × GeneratorBody))
  | .finished => return none
  | .script steps => do
    let halt ← Run.attempt (runScript steps)
    match ← Run.ofExcept (halt.mapError leavingCoroutine) with
    | .returned _ => return none
    | .yielded v rest => return some (v, .script rest)
  | .convert iterable iterator conversion => do
    let iterator ← match iterator with
      | some it => pure it
      | none => asyncIterator iterable
    match ← nextOrEnd e iterator with
    | none => return none
    | some item =>
      let v ← Run.act (Act.view (conversion.apply · item))
      return some (v, .convert iterable (some iterator) conversion)

/-- The fault of asking a generator for an item while it is being asked already. -/
def generatorRunning : Fault :=
  .say .runtime "anext(): asynchronous generator is already running"

/-- The next item of an asynchronous generator. -/
def nextYielded (e : Engine) (id : Nat) : Run Value := do
  match (← Run.act get).generators[id]? with
  | none => throw exhausted
  | some g =>
    if g.running then throw generatorRunning
    Run.act (modify fun s => s.setGenerator id { g with running := true })
    let halt ← Run.attempt (runGenerator e g.body)
    let body := match halt with
      | .ok (some (_, body)) => body
      | _ => .finished
    Run.act (modify fun s => s.setGenerator id { body })
    match halt with
    | .ok (some (v, _)) => return v
    | .ok none => throw exhausted
    | .error fault => throw (leavingAsyncGenerator fault)

/-- The next item of an asynchronous iterator. -/
def nextItem (e : Engine) (iterator : Value) : Run Value :=
  match iterator with
  | .process .asyncGenerator id => nextYielded e id
  | .cell .asyncItems id | .cell .asyncBoth id => nextStored id
  | _ => Run.fail .badAsyncIterator

end StreamTemplate
