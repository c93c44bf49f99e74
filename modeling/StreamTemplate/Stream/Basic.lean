import StreamTemplate.Stream.Queue
import StreamTemplate.Stream.Source

/-!
# Ordered chunk streams

A stream takes sources in and gives their chunks out, strictly in the order in which the sources
came. Nothing happens unless a chunk is asked for: then sources leave the queue one at a time, and a
source that does not deliver at once stays active until it is exhausted.
-/

namespace StreamTemplate

/-- The phases of a stream. Whether it still takes input is another matter. -/
inductive Phase where
  /-- No source is active. -/
  | idle
  /-- A source is active. -/
  | draining
  /-- Everything has been delivered. -/
  | ended
  /-- The stream has failed. -/
  | errored
  deriving DecidableEq, Repr

/-- The name of a phase. -/
def Phase.label : Phase → String
  | idle => "idle"
  | draining => "draining"
  | ended => "ended"
  | errored => "errored"

/-- A stream of chunks. Futures are known by number. -/
structure ChunkStream where
  /-- The sources to come. -/
  queue : Queue Source := {}
  phase : Phase := .idle
  /-- Whether no more input is taken. -/
  closed : Bool := false
  /-- The fault to end with once everything is delivered. -/
  closeFault : Option Fault := none
  /-- The fault the stream has failed with. -/
  fault : Option Fault := none
  /-- The source being drained. -/
  active : Option Source := none
  /-- What the active source is gone through with. -/
  iterator : Option Value := none
  /-- The future of what has been asked of the active source. -/
  inflight : Option Nat := none
  /-- The future that a waiting pull waits for. -/
  waiter : Option Nat := none
  /-- The size that a waiting pull has asked for. -/
  demand : Option Int := none
  /-- Whether a pull is under way. -/
  pulling : Bool := false

namespace ChunkStream

/-- The number of sources to come. -/
def pending (s : ChunkStream) : Nat :=
  s.queue.size

/-- A stream in words. -/
def describe (s : ChunkStream) : String :=
  let closed := if s.closed then " closed" else ""
  s!"<OrderedChunkStream {s.phase.label}{closed} pending={s.pending}>"

end ChunkStream

end StreamTemplate
