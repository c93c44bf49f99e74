import StreamTemplate.Proofs.Loop.Turn
import StreamTemplate.Session.Run

/-!
# The course of a stream

A stream lives in an event loop among producers that push, close and abort, consumers whose pulls
are started, resumed and cancelled, and code that settles futures. `Course` lets all of them act in
any order, and keeps a ledger of what was accepted, what work was begun for each source and what the
pulls have returned. Code that is none of their business may do to the store whatever it likes as long as
it is `Outside`.
-/

namespace StreamTemplate

open Pull (Call)

/-- Something that a source contributes to the output: a value that is there, or what is awaited. -/
inductive Slot where
  | ready (v : Value)
  | awaited (kind : SourceKind) (w : Nat)

/-- The values that a slot contributes. -/
def Slot.yield (s : Store) : Slot → List Value
  | ready v => [v]
  | awaited kind w => kind.yield (s.progress w)

/-- An accepted source, and the work that was begun for it. -/
structure Accepted where
  source : Source
  work : List Nat := []

namespace Accepted

/-- What a source contributes to the output. A future or a task is its own work. -/
def slots (e : Accepted) : List Slot :=
  match e.source.kind, e.source.value with
  | .literal, v => [.ready v]
  | .deferred, .process .future w | .deferred, .process .task w => [.awaited .deferred w]
  | kind, _ => e.work.map (.awaited kind)

/-- What a source has produced so far. -/
def emissions (s : Store) (e : Accepted) : List Value :=
  e.slots.flatMap (·.yield s)

/-- Takes down the work that was begun for the source that left the queue last, when so many are
still queued. -/
def assign (accepted : List Accepted) (pending : Nat) (work : List Nat) : List Accepted :=
  accepted.modify (accepted.length - pending - 1) fun e => { e with work := e.work ++ work }

end Accepted

/-- What is known of the course of a stream. -/
structure Ledger where
  /-- The sources accepted before the stream was closed, in order. -/
  accepted : List Accepted := []
  /-- The fault that the stream was first closed with, or none. -/
  closing : Option (Option Fault) := none
  /-- The chunks that pulls have returned, in order, each with the heap at that time. -/
  returned : List (Value × Heap) := []
  /-- Whether a pull has returned nothing. -/
  ended : Bool := false
  calls : List Call := []
  /-- The futures that pulls waited for while an abort failed. -/
  deserted : List Nat := []

namespace Ledger

/-- Takes down the sources of a chunk. -/
def accept (g : Ledger) (members : List Value) : Ledger :=
  match g.closing, flatten members with
  | none, .ok sources => { g with accepted := g.accepted ++ sources.map fun source => { source } }
  | _, _ => g

theorem accept_eq (g : Ledger) (members : List Value) :
    ∃ new, g.accept members = { g with accepted := g.accepted ++ new } := by
  unfold accept
  split
  · exact ⟨_, rfl⟩
  · exact ⟨[], by rw [List.append_nil]⟩

theorem accept_of_closed {g : Ledger} (closed : g.closing.isSome) (members : List Value) :
    g.accept members = g := by
  obtain ⟨fault, closing⟩ := Option.isSome_iff_exists.mp closed
  unfold accept
  rw [closing]

theorem accept_of_refused {g : Ledger} {members : List Value} {fault : Fault}
    (flat : flatten members = .error fault) : g.accept members = g := by
  unfold accept
  rw [flat]
  split
  · contradiction
  · rfl

theorem accept_of_nothing {g : Ledger} {members : List Value} (flat : flatten members = .ok []) :
    g.accept members = g := by
  unfold accept
  rw [flat]
  split
  · next same =>
    cases same
    show { g with accepted := g.accepted ++ [] } = g
    rw [List.append_nil]
  · rfl

theorem accept_of_flatten {g : Ledger} {members : List Value} {sources : List Source}
    (opened : g.closing = none) (flat : flatten members = .ok sources) :
    g.accept members =
      { g with accepted := g.accepted ++ sources.map fun source => { source } } := by
  unfold accept
  rw [opened, flat]

/-- Takes down that the stream is closed. -/
def close (g : Ledger) (fault : Option Fault) : Ledger :=
  { g with closing := some (g.closing.getD fault) }

/-- Takes down who waited while an abort came out as it did. -/
def abort (g : Ledger) (waiter : Option Nat) : Except Fault Unit → Ledger
  | .ok () => g
  | .error _ => { g with deserted := waiter.toList ++ g.deserted }

theorem abort_eq (g : Ledger) (waiter : Option Nat) (r : Except Fault Unit) :
    ∃ deserted, g.abort waiter r = { g with deserted } := by
  cases r <;> exact ⟨_, rfl⟩

/-- Takes down what a pull returns. -/
def deliver (g : Ledger) (heap : Heap) : Value → Ledger
  | .none => { g with ended := true }
  | v => { g with returned := g.returned ++ [(v, heap)] }

theorem deliver_of_ne (g : Ledger) {v : Value} (heap : Heap) (chunk : v ≠ .none) :
    g.deliver heap v = { g with returned := g.returned ++ [(v, heap)] } := by
  unfold deliver
  split
  · contradiction
  · rfl

/-- Takes down a turn of a call. -/
def turn (g : Ledger) (id : Nat) (a : Call) (before after : Store) : Ledger :=
  let pending := (Session.streamOf after id).pending
  let g := { g with accepted := Accepted.assign g.accepted pending (before.begun after) }
  match before.isPending a.task, after.progress a.task with
  | true, .finished v => g.deliver after.heap v
  | _, _ => g

/-- The tasks of the calls. -/
def Tasks (g : Ledger) (w : Nat) : Prop :=
  ∃ a ∈ g.calls, w = a.task

/-- The coroutines of the calls. -/
def Coroutines (g : Ledger) (c : Nat) : Prop :=
  ∃ a ∈ g.calls, c = a.coroutine

/-- The listeners that the calls are. -/
def Listeners (g : Ledger) (x : Listener) : Prop :=
  ∃ a ∈ g.calls, x = .task a.task

end Ledger

/-- A change of an event loop that is no business of the stream `id` and its calls: the stream, the
tasks and the coroutines of the calls stay as they are, what is settled stays settled, and the stream
and its calls are told what they listen to. -/
structure Outside (id : Nat) (g : Ledger) (l l' : EventLoop) : Prop where
  stream : l'.store.streams[id]? = l.store.streams[id]?
  spares : l.store.Spares (fun x => x = .stream id ∨ g.Listeners x) g.Tasks g.Coroutines l'.store
  lookup : ∀ a ∈ g.calls, l'.waiting.lookup a.task = l.waiting.lookup a.task
  waiting : ∀ p ∈ l'.waiting, p.1 < l'.store.futures.size

/-- What makes a task go on. -/
def Ready.Resumes (t : Nat) : Ready → Prop
  | .step t' _ | .wake t' _ => t' = t
  | _ => False

/-- What is thrown into the task that goes on. -/
def Ready.thrown (s : Store) : Ready → Option Fault
  | .step _ thrown => thrown
  | .wake _ w =>
    match s.progress w with
    | .failed fault => some fault
    | .cancelled => some .cancelled
    | _ => none
  | _ => none

theorem Ready.thrown_wake_finished {s : Store} {w : Nat} {v : Value}
    (finished : s.progress w = .finished v) (t : Nat) : Ready.thrown s (.wake t w) = none := by
  unfold thrown
  simp only [finished]

/-- What makes a task go on resumes it. -/
theorem Ready.Resumes.dispatch {r : Ready} {t : Nat} (h : r.Resumes t) (l : EventLoop) :
    EventLoop.dispatch r l = l.stepTask t (r.thrown l.store) := by
  cases r with
  | step t' thrown | wake t' w =>
    cases h
    rfl
  | notice | render | spawn => exact h.elim

/-- What can happen to the stream `id` next. -/
inductive Happens (id : Nat) (l : EventLoop) (g : Ledger) : EventLoop → Ledger → Prop where
  | push (chunk : Value)
      (foreign : ∀ c, .process .coroutine c ∈ l.store.heap.chunkMembers chunk →
        c < l.store.coroutines.size ∧ ∀ a ∈ g.calls, a.coroutine ≠ c) :
      Happens id l g (l.withStore (pushChunk id chunk).run).2
        (g.accept (l.store.heap.chunkMembers chunk))
  | close (fault : Option Fault) :
      Happens id l g (l.withStore (Store.onStream id (ChunkStream.close · fault)).run).2
        (g.close fault)
  | abort (fault : Option Fault) :
      Happens id l g (l.withStore (Store.onStream id (ChunkStream.abort · fault)).run).2
        (g.abort (Session.streamOf l.store id).waiter
          (l.withStore (Store.onStream id (ChunkStream.abort · fault)).run).1)
  | call (name : String) (size : Option Int) :
      Happens id l g (l.withStore (Session.startCall name (.call id (.pull size))).run).2
        { g with calls := ⟨l.store.futures.size, l.store.coroutines.size, size⟩ :: g.calls }
  | turn {r store} {a : Call} (call : a ∈ g.calls) (next : l.store.dequeue = some (r, store))
      (resumes : r.Resumes a.task) :
      Happens id l g (EventLoop.dispatch r { l with store })
        (g.turn id a l.store (EventLoop.dispatch r { l with store }).store)
  | notice {w store} (next : l.store.dequeue = some (.notice id w, store)) :
      Happens id l g (EventLoop.dispatch (.notice id w) { l with store }) g
  | cancel {a : Call} (call : a ∈ g.calls) :
      Happens id l g (l.withStore (Store.cancel a.task)).2 g
  | settle {w} {p : Progress} (pending : l.store.isPending w) (done : p ≠ .pending)
      (foreign : ∀ a ∈ g.calls, w ≠ a.task) :
      Happens id l g (l.withStore (Store.complete w p)).2 g
  | outside {l'} (change : Outside id g l l') : Happens id l g l' g

/-- The courses that the stream `id` can take. -/
inductive Course (id : Nat) : EventLoop → Ledger → Prop where
  | start {l : EventLoop} (new : l.store.streams.size = id)
      (waiting : ∀ p ∈ l.waiting, p.1 < l.store.futures.size) :
      Course id { l with store := { l.store with streams := l.store.streams.push {} } } {}
  | next {l g l' g'} (before : Course id l g) (happens : Happens id l g l' g') : Course id l' g'

end StreamTemplate
