import StreamTemplate.Loop.Await

/-!
# Consuming a stream

A pull waits until the stream has a chunk or is at its end. The other calls pull again and again and
put the chunks together.
-/

namespace StreamTemplate

/-- Waits until the stream has woken the pull. -/
def awaitWake (stream : Nat) : Run Unit := do
  let waiter ← Run.act (Act.always Store.newFuture)
  Run.act (Store.onStream stream fun _ => ChunkStream.setWaiter (some waiter))
  Run.ensuring (discard (awaitFuture waiter))
    (Run.act (Store.onStream stream fun _ => ChunkStream.setWaiter none))

/-- Goes on until the stream has a chunk or is at its end. -/
def pullWithin (stream : Nat) (size : Option Int) : Nat → Run (Option Value)
  | 0 => Run.stuck
  | rounds + 1 => do
    match ← Run.act (Store.onStream stream (ChunkStream.advance · size)) with
    | .chunk v => return some v
    | .ended => return none
    | .wait =>
      awaitWake stream
      pullWithin stream size rounds

/-- The next chunk of a stream, or nothing at its end. -/
def pull (stream : Nat) (size : Option Int) : Run (Option Value) := do
  Run.act (Store.onStream stream fun _ => ChunkStream.beginPull)
  let chunk ← Run.attempt (Run.ensuring (pullWithin stream size patience)
    (Run.act (Store.onStream stream fun _ => ChunkStream.endPull)))
  Run.ofExcept (chunk.mapError leavingCoroutine)

/-- The next chunk of a stream in a loop: the signal for the end of an asynchronous loop ends it,
too. -/
def pullInLoop (stream : Nat) : Run (Option Value) := do
  match ← Run.attempt (pull stream none) with
  | .ok chunk => return chunk
  | .error fault => if fault.isA .stopAsyncIteration then return none else throw fault

section

variable {α : Type} (stream : Nat) (f : Heap → Value → Except Fault α)

/-- Puts what a function makes of the chunks of a stream as they come before what there is already,
so that the last comes first; its first fault ends it. -/
def gatherOnto (parts : List α) : Nat → Run (List α)
  | 0 => Run.stuck
  | rounds + 1 => do
    match ← pullInLoop stream with
    | none => return parts
    | some chunk =>
      let part ← Run.act (Act.view (f · chunk))
      gatherOnto (part :: parts) rounds

/-- What a function makes of the chunks of a stream, in order. -/
def gather : Run (List α) :=
  return (← gatherOnto stream f [] patience).reverse

end

/-- The text of a chunk. -/
def chunkText (encoding : String) (heap : Heap) : Value → Except Fault String
  | .text s => .ok s
  | chunk => (Text.decodeNamed encoding ((heap.bytes? chunk).getD [])).mapError codecFault

/-- The bytes of a chunk. -/
def chunkBytes (encoding : String) (heap : Heap) : Value → Except Fault (List UInt8)
  | .text s => (Text.encodeNamed encoding s).mapError codecFault
  | chunk => .ok ((heap.bytes? chunk).getD [])

/-- Reads a stream as one text. -/
def readText (stream : Nat) (encoding : String) : Run Value := do
  return .text (String.join (← gather stream (chunkText encoding)))

/-- Runs what a consumer asks of a stream. -/
def consume (stream : Nat) : StreamCall → Run Value
  | .pull size => do return (← pull stream size).getD .none
  | .next => do
    match ← pull stream none with
    | some chunk => return chunk
    | none => throw exhausted
  | .collect => do
    let chunks ← gather stream (fun _ chunk => .ok chunk)
    Run.work (newList chunks.toArray)
  | .readText encoding => readText stream encoding
  | .readBytes encoding => do
    return .binary .bytes (← gather stream (chunkBytes encoding)).flatten

end StreamTemplate
