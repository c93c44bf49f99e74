import StreamTemplate.Stream.Surroundings

/-!
# Operations on a stream

Feeding, closing and tearing down on one side, pulling on the other. `advance` is the heart: it goes
as far as it can without waiting, and its result says whether there is a chunk, the end, or nothing
yet. Whatever may let a waiting pull go on wakes it.
-/

namespace StreamTemplate.ChunkStream

variable {m : Type → Type} [Monad m] (host : Surroundings m)

/-- Wakes the pull that waits, if there is one. -/
def wake : StreamM m Unit := do
  match (← get).waiter with
  | some waiter => .outside (host.wake waiter)
  | none => return

/-- Closes values one after the other. -/
def disposeAll : List Value → StreamM m Unit
  | [] => return
  | v :: rest => do
    .outside? (host.dispose v)
    disposeAll rest

/-- Ends the stream with a fault: it lets go of the active source, closes what is still queued and
takes no more input. -/
def fail (fault : Fault) : StreamM m Unit := do
  match (← get).inflight with
  | some work => .outside (host.ignore work)
  | none => pure ()
  modify fun s => { s with inflight := none, active := none, iterator := none }
  disposeAll host ((← get).queue.toList.map (·.value))
  modify fun s => { s with queue := {}, closed := true, fault := some fault, phase := .errored }
  wake host

/-- Ends the stream with a fault and passes it on. -/
def failWith {α : Type} (fault : Fault) : StreamM m α := do
  fail host fault
  throw fault

/-! ### The producer's side -/

/-- Feeds the values of a chunk. One that is no source spoils all of them; after the stream was
closed they are only disposed of. -/
def push (members : List Value) : StreamM m Unit := do
  if (← get).closed then disposeAll host members
  else
    match flatten members with
    | .error fault => throw fault
    | .ok [] => return
    | .ok sources =>
      modify fun s => { s with queue := s.queue.append sources }
      wake host

/-- Takes no more input; once everything is delivered the stream ends, with a fault if one is
given. -/
def close (fault : Option Fault) : StreamM m Unit := do
  if (← get).closed then return
  modify fun s => { s with closed := true, closeFault := fault }
  wake host

/-- The fault of a stream that was torn down for no other reason. -/
def tornDown : Fault :=
  .aborted [.text "stream was aborted"] none

/-- Tears the stream down, unless it is over. -/
def abort (fault : Option Fault) : StreamM m Unit := do
  match (← get).phase with
  | .ended | .errored => return
  | .idle | .draining => fail host (fault.getD tornDown)

/-! ### The consumer's side -/

/-- How far a pull has come without waiting. -/
inductive Advance where
  | chunk (v : Value)
  | ended
  | wait

/-- Asks to be told about work that now is in flight. -/
def listen (work : Nat) : StreamM m Unit := do
  modify fun s => { s with inflight := some work }
  .outside (host.listen work)

/-- Makes a source the active one. -/
def activate (source : Source) : StreamM m Unit := do
  modify fun s => { s with active := some source, phase := .draining }
  if source.kind = .deferred then
    match ← StreamM.outside (host.start source.value) with
    | .ok work => listen host work
    | .error fault => if fault.isOrdinary then failWith host fault else throw fault
  else
    match ← StreamM.outside (host.iterate source.value) with
    | .ok iterator => modify fun s => { s with iterator := some iterator }
    | .error fault => if fault.isOrdinary then failWith host fault else throw fault

/-- Lets go of the active source, which is exhausted. -/
def release : StreamM m Unit :=
  modify fun s => { s with active := none, iterator := none, phase := .idle }

/-- The fault of a stream whose state does not fit its phase. -/
def broken : Fault :=
  .raised .assertion []

/-- Emits a value, or fails if it is no chunk. -/
def emit (v : Value) : StreamM m (Option Value) := do
  if v.isEmission then return some (← .outside (host.normalize v))
  else failWith host (.chunkType v.className false)

/-- Takes in what has become of the work of a source: a chunk, or nothing if the source is
exhausted. -/
def takeIn (source : Source) : Progress → StreamM m (Option Value)
  | .pending => return none
  | .cancelled => failWith host (.say .cancelled s!"{source.kind.label} chunk source was cancelled")
  | .failed fault => failWith host fault
  | .finished v =>
    if source.kind = .deferred then do
      release
      emit host v
    else
      match v with
      | .tuple _ [.bool false, item] => emit host item
      | _ => do
        release
        return none

/-- Takes in what has become of the work in flight, which it is no longer. -/
def settle (work : Nat) (progress : Progress) : StreamM m (Option Value) := do
  .outside (host.ignore work)
  modify fun s => { s with inflight := none }
  match (← get).active with
  | none => throw broken
  | some source => takeIn host source progress

/-- The work in flight; the active source is asked for an item if there is none. -/
def inflightWork : StreamM m Nat := do
  match (← get).inflight with
  | some work => return work
  | none =>
    match (← get).iterator with
    | none => throw broken
    | some iterator =>
      let work ← .outside (host.request iterator)
      listen host work
      return work

/-- Gets the active source to deliver: a chunk, a reason to wait, or nothing if it is exhausted. -/
def drain (size : Option Int) : StreamM m (Option Advance) := do
  let work ← inflightWork host
  match ← StreamM.outside (host.progress work) with
  | .pending =>
    modify fun s => { s with demand := size }
    return some .wait
  | progress => return (← settle host work progress).map .chunk

/-- Ends a stream that has delivered everything. -/
def finish : StreamM m Advance := do
  match (← get).closeFault with
  | some fault =>
    failWith host fault
  | none =>
    modify fun s => { s with phase := .ended }
    wake host
    return .ended

/-- Goes through the queued sources until one of them delivers or has to be waited for. -/
def next (size : Option Int) : List Source → StreamM m Advance
  | [] => do
    if (← get).closed then finish host
    else
      modify fun s => { s with demand := size }
      return .wait
  | source :: rest => do
    modify fun s => { s with queue := .ofList rest }
    if source.kind = .literal then
      return .chunk (← .outside (host.normalize source.value))
    activate host source
    match ← drain host size with
    | some result => return result
    | none => next size rest

/-- Goes as far as possible without waiting. -/
def advance (size : Option Int) : StreamM m Advance := do
  match (← get).phase with
  | .errored => throw ((← get).fault.getD broken)
  | .ended => return .ended
  | .draining =>
    match ← drain host size with
    | some result => return result
    | none => next host size (← get).queue.toList
  | .idle => next host size (← get).queue.toList

/-- The fault of a pull while another one is under way. -/
def overlapping : Fault :=
  .say .runtime "pull() called while another pull() is already waiting for data"

/-- Begins a pull; there can be only one at a time. -/
def beginPull : StreamM m Unit := do
  if (← get).pulling then throw overlapping
  modify fun s => { s with pulling := true }

/-- Ends a pull. -/
def endPull : StreamM m Unit :=
  modify fun s => { s with pulling := false, demand := none }

/-- Notes the future that a pull waits for, or that it waits no longer. -/
def setWaiter (waiter : Option Nat) : StreamM m Unit :=
  modify fun s => { s with waiter }

/-- Takes notice that work is done: if it is the work in flight, a waiting pull can go on. -/
def noticed (work : Nat) : StreamM m Unit := do
  if (← get).inflight = some work then wake host

end StreamTemplate.ChunkStream
