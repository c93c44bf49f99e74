import StreamTemplate.Render.Start

/-!
# Running the event loop

The loop takes what is ready, in the order in which it became ready, and runs it until it waits or
ends. A task that waits for a future goes on when the future is done. The loop is settled when
nothing is ready.
-/

namespace StreamTemplate

/-- The next item of an iterator as a pair: whether it is exhausted, and the item. -/
def itemOrEnd (e : Engine) (iterator : Value) : Run Value := do
  match ← nextOrEnd e iterator with
  | some v => return .tuple (.constant 0 0) [.bool false, v]
  | none => return .tuple (.constant 0 0) [.bool true, .none]

/-- Runs the body of a coroutine. -/
def Body.run (e : Engine) : Body → Run Value
  | .script steps => do
    match ← runScript steps with
    | .returned v => return v
    | .yielded v _ => return v
  | .convert awaitable conversion => do
    let v ← awaitValue e awaitable
    Run.act (Act.view (conversion.apply · v))
  | .await awaitable => awaitValue e awaitable
  | .nextItem iterator => itemOrEnd e iterator
  | .render r => do
    r.run e
    return .none
  | .call stream request => consume stream request
  | .renderText t data => do
    let stream ← t.startWith e true data
    readText stream "utf-8"
  | .collect iterable => do
    let items ← collectItems e (← asyncIterator iterable)
    Run.work (newList items.toArray)

/-- Runs coroutines and generators that are nested up to a depth. -/
def engine : Nat → Engine
  | 0 => { body := fun _ => Run.stuck, next := fun _ => Run.stuck }
  | depth + 1 =>
    let inner := engine depth
    { body := Body.run inner, next := nextItem inner }

/-- Runs whatever there is. -/
def mainEngine : Engine :=
  engine 200

/-- What a task runs when it is resumed. -/
abbrev Continuation := Option Fault → Process Store (Except Fault Value)

/-- An event loop: what its tasks share, and the tasks that wait. -/
structure EventLoop where
  store : Store := {}
  waiting : List (Nat × Continuation) := []

namespace EventLoop

/-- Does something on the store. -/
def withStore {α : Type} (x : StateM Store α) (l : EventLoop) : α × EventLoop :=
  let (a, store) := x.run l.store
  (a, { l with store })

/-- Completes a task. -/
def finishTask (id : Nat) (task : TaskState) (r : Except Fault Value) : StateM Store Unit := do
  match task.report with
  | some name => modify fun s => { s with reports := (name, r) :: s.reports }
  | none => pure ()
  Store.complete id <|
    match r with
    | .ok v => if task.mustCancel then .cancelled else .finished v
    | .error fault => if fault.isA .cancelled then .cancelled else .failed fault

/-- Lets a task wait. -/
def suspendTask (id : Nat) (w : Wait) : StateM Store Unit := do
  match w with
  | .turn => Store.enqueue (.step id none)
  | .future future =>
    Store.listen future (.task id)
    Store.modifyTask id fun t => { t with waiting := some future }
    if ((← get).futures[id]?.bind (·.task)).any (·.mustCancel) then
      if ← Store.cancel future then Store.modifyTask id fun t => { t with mustCancel := false }

/-- The fault that a resumed task finds thrown into it. -/
def thrownInto (task : TaskState) (thrown : Option Fault) : Option Fault :=
  if task.mustCancel then
    match thrown with
    | some fault => if fault.isA .cancelled then thrown else some .cancelled
    | none => some .cancelled
  else thrown

/-- What a task runs. -/
def process (l : EventLoop) (id : Nat) (task : TaskState) (thrown : Option Fault) :
    Process Store (Except Fault Value) :=
  match l.waiting.lookup id with
  | some k => k thrown
  | none => (taskMain mainEngine task.coroutine thrown).run

/-- The store when a task begins to run, with its render context. -/
def enterTask (id : Nat) (task : TaskState) (s : Store) : Store :=
  let s := ((Store.modifyTask id fun t => { t with mustCancel := false, waiting := none }).run s).2
  { s with context := task.context }

/-- The store when a task has run; the task keeps its render context. -/
def leaveTask (id : Nat) (s : Store) : Store :=
  let context := s.context
  ((Store.modifyTask id fun t => { t with context }).run { s with context := none }).2

/-- Finishes a task that has run, or lets it wait. -/
def concludeTask (id : Nat) (task : TaskState) (l : EventLoop) :
    Halted Store (Except Fault Value) × Store → EventLoop
  | (halted, s) =>
    let s := leaveTask id s
    let waiting := l.waiting.filter (·.1 ≠ id)
    match halted with
    | .done r =>
      let task := (s.futures[id]?.bind (·.task)).getD task
      { store := ((finishTask id task r).run s).2, waiting }
    | .stuck => { store := s, waiting }
    | .waiting w k => { store := ((suspendTask id w).run s).2, waiting := (id, k) :: waiting }

/-- Resumes a task. -/
def stepTask (id : Nat) (thrown : Option Fault) (l : EventLoop) : EventLoop :=
  if !l.store.isPending id then l
  else match l.store.futures[id]?.bind (·.task) with
    | none => l
    | some task =>
      let process := l.process id task (thrownInto task thrown)
      l.concludeTask id task (process.run (enterTask id task l.store))

/-- Runs code that belongs to no task and cannot wait. -/
def runAside {α : Type} (x : Run α) (l : EventLoop) : Option (Except Fault α) × EventLoop :=
  let (halted, store) := x.run.run l.store
  let l := { l with store }
  match halted with
  | .done r => (some r, l)
  | _ => (none, l)

/-- Runs something in a copy of a render context. Between turns no render context is current. -/
def inContext (context : Option Nat) (run : EventLoop → EventLoop) (l : EventLoop) : EventLoop :=
  let l := run { l with store := { l.store with context } }
  { l with store := { l.store with context := none } }

/-- Runs one thing that is ready. -/
def dispatch (r : Ready) (l : EventLoop) : EventLoop :=
  match r with
  | .step task thrown => stepTask task thrown l
  | .wake task future =>
    let thrown := match l.store.progress future with
      | .failed fault => some fault
      | .cancelled => some .cancelled
      | _ => none
    stepTask task thrown l
  | .notice stream future =>
    (l.withStore (Store.onStream stream (ChunkStream.noticed · future)).run).2
  | .render context r => l.inContext context fun l => (l.runAside (r.run mainEngine)).2
  | .spawn context coroutine =>
    l.inContext context fun l => (l.withStore (spawnBody coroutine)).2

/-- Runs what is ready until nothing is, or a bound is reached. -/
def settle : Nat → EventLoop → EventLoop
  | 0, l => l
  | rounds + 1, l =>
    match l.store.dequeue with
    | none => l
    | some (r, store) => settle rounds (dispatch r { l with store })

/-- How many things that are ready the loop runs before it is taken to go on for ever. -/
def settleBound : Nat :=
  patience

/-- Runs a body as a task of its own, with all else that is ready. The result is what the task has
delivered when the loop is settled. -/
def finish (body : Body) (l : EventLoop) : Except Fault Value × EventLoop :=
  let (task, l) := l.withStore do Store.newTask (← Store.newCoroutine body) none
  let l := l.settle settleBound
  ((l.store.progress task).deliver, l)

end EventLoop

end StreamTemplate
