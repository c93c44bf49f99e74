import StreamTemplate.Render.Context
import StreamTemplate.Render.Template
import StreamTemplate.Stream.Operation

/-!
# The event loop's store

Everything that tasks share: the heap, coroutines and generators, futures, streams, render contexts
and the queue of what is ready to run. A task is a future that a coroutine completes. Code that has
not begun to run is described by its body; the store holds no running code.
-/

namespace StreamTemplate

/-- What a consumer asks of a stream. -/
inductive StreamCall where
  | pull (size : Option Int)
  | next
  | collect
  | readText (encoding : String)
  | readBytes (encoding : String)
  deriving DecidableEq, Repr

/-- What a coroutine does when it is awaited. -/
inductive Body where
  | script (steps : List Step)
  /-- Awaits a value and converts what it delivers. -/
  | convert (awaitable : Value) (conversion : Conversion)
  /-- Awaits a value that is no coroutine. -/
  | await (awaitable : Value)
  /-- Asks an iterator for its next item. -/
  | nextItem (iterator : Value)
  /-- Renders the body of a template. -/
  | render (render : Render)
  | call (stream : Nat) (call : StreamCall)
  /-- Renders a template with data and reads its stream as text. -/
  | renderText (template : Template) (data : List (String × Value))
  /-- Goes through an asynchronous iterable. -/
  | collect (iterable : Value)

/-- The states of a coroutine. -/
inductive CoroutineState where
  | created
  | running
  /-- It waits for a future, or just for its next turn. -/
  | suspended (future : Option Nat)
  | closed
  deriving DecidableEq, Repr

/-- A coroutine. -/
structure Coroutine where
  body : Body
  state : CoroutineState := .created

/-- What an asynchronous generator has still to do. -/
inductive GeneratorBody where
  | script (steps : List Step)
  /-- Goes through an asynchronous iterable, which may not have begun, and converts the items. -/
  | convert (iterable : Value) (iterator : Option Value) (conversion : Conversion)
  | finished

/-- An asynchronous generator. While it is asked for an item it is running, even if it waits. -/
structure Generator where
  body : GeneratorBody
  running : Bool := false

/-- Who is told when a future is completed. -/
inductive Listener where
  | task (id : Nat)
  | stream (id : Nat)
  deriving DecidableEq, Repr

/-- What makes a future a task. -/
structure TaskState where
  coroutine : Nat
  /-- The future that the task waits for. -/
  waiting : Option Nat := none
  /-- Whether the task is to be cancelled when it next runs. -/
  mustCancel : Bool := false
  /-- The render context that is current in the task. -/
  context : Option Nat := none
  /-- The name under which the outcome is reported. -/
  report : Option String := none

/-- A future. -/
structure Future where
  progress : Progress := .pending
  /-- Whether it has been gone through like a sequence while it was pending; it cannot be awaited
  then. -/
  claimed : Bool := false
  listeners : List Listener := []
  task : Option TaskState := none

/-- What is ready to run. -/
inductive Ready where
  /-- A task goes on, perhaps with a fault thrown into it. -/
  | step (task : Nat) (thrown : Option Fault)
  /-- A task goes on because the future it waits for is done. -/
  | wake (task future : Nat)
  /-- A stream takes notice of finished work. -/
  | notice (stream future : Nat)
  /-- The body of a render runs, in a copy of the render context from when it was put off. -/
  | render (context : Option Nat) (render : Render)
  /-- A coroutine becomes a task, in a copy of the render context from when that was put off. -/
  | spawn (context : Option Nat) (coroutine : Nat)

/-- What the tasks of an event loop share. -/
structure Store where
  palette : Diagnostic.Palette := .plain
  heap : Heap := {}
  coroutines : Array Coroutine := #[]
  generators : Array Generator := #[]
  futures : Array Future := #[]
  streams : Array ChunkStream := #[]
  contexts : Array RenderContext := #[]
  /-- The render context that is current in the running code. -/
  context : Option Nat := none
  /-- What is ready. -/
  ready : Queue Ready := {}
  /-- The texts noted by scripts, the last first. -/
  log : List String := []
  /-- The outcomes reported, the last first. -/
  reports : List (String × Except Fault Value) := []
  gates : List (String × Nat) := []
  shared : List (String × Value) := []
  /-- The stream that scripts act on. -/
  stream : Option Nat := none
  /-- The tasks that run bodies of renders, the last first. -/
  bodies : List Nat := []

/-- An operation on the store that does not wait. What it did before it failed stays done. -/
abbrev Act (α : Type) := ExceptT Fault (StateM Store) α

namespace Act

/-- Does something on the heap. -/
def work {α : Type} (w : Work α) : Act α :=
  fun s =>
    let before := s.heap
    -- Nothing but `w` refers to the heap while `w` works on it.
    let s := { s with heap := {} }
    let (result, heap) := w.run.run before
    (result, { s with heap })

/-- Fails. -/
def fail {α : Type} (fault : ValueFault) : Act α :=
  throw fault.toFault

/-- Takes a result from the heap. -/
def view {α : Type} (f : Heap → Except Fault α) : Act α :=
  fun s => (f s.heap, s)

/-- Does something that cannot fail. -/
def always {α : Type} (x : StateM Store α) : Act α :=
  fun s => let (a, s) := x.run s; (.ok a, s)

/-- Takes a result that is there or a fault. -/
def ofExcept {α : Type} (r : Except Fault α) : Act α :=
  fun s => (r, s)

/-- The heap. -/
def heap : Act Heap :=
  fun s => (.ok s.heap, s)

/-- Goes on whether something fails or not. -/
def attempt {α : Type} (x : Act α) : Act (Except Fault α) :=
  fun s => let (r, s) := x.run s; (.ok r, s)

end Act

instance (priority := low) : MonadLift (ExceptT Fault (StateM Heap))
    (ExceptT Fault (StateM Store)) where
  monadLift := Act.work

namespace Store

/-- Adds something to what is ready. -/
def enqueue (r : Ready) : StateM Store Unit :=
  modify fun s => { s with ready := s.ready.push r }

/-- The next thing that is ready. -/
def dequeue (s : Store) : Option (Ready × Store) :=
  (fun (r, ready) => (r, { s with ready })) <$> s.ready.next?

end Store

end StreamTemplate
