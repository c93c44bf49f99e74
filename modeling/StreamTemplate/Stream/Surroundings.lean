import StreamTemplate.Stream.Basic

/-!
# The surroundings of a stream

A stream runs nothing itself. It asks its surroundings to await a value, to go through an iterable
and to wake a waiting pull, and they tell it what has become of the work. `Surroundings` lists what
a stream needs of them; a stream operation works in any.
-/

namespace StreamTemplate

/-- What has become of work. -/
inductive Progress where
  | pending
  | finished (v : Value)
  | failed (fault : Fault)
  | cancelled

/-- What a stream needs of its surroundings, which act in `m`. Work is known by the number of its
future. -/
structure Surroundings (m : Type → Type) where
  /-- Begins to await a value. -/
  start : Value → m (Except Fault Nat)
  /-- What an iterable is gone through with. -/
  iterate : Value → m (Except Fault Value)
  /-- Begins to ask an iterator for its next item: a pair of whether it is exhausted, and the
  item. -/
  request : Value → m Nat
  /-- What has become of work. -/
  progress : Nat → m Progress
  /-- Asks to be told when work is done. -/
  listen : Nat → m Unit
  /-- Asks no longer to be told. -/
  ignore : Nat → m Unit
  /-- Wakes a waiting pull. -/
  wake : Nat → m Unit
  /-- Closes a value that will not be awaited any more, if it is a coroutine. -/
  dispose : Value → m (Except Fault Unit)
  /-- A literal as it is emitted: an empty chunk keeps the place of one that is empty. -/
  normalize : Value → m Value

/-- An operation on a stream in its surroundings. What it did before it failed stays done. -/
abbrev StreamM (m : Type → Type) (α : Type) := ExceptT Fault (StateT ChunkStream m) α

namespace StreamM

variable {m : Type → Type} [Monad m]

/-- Does something in the surroundings. -/
def outside {α : Type} (x : m α) : StreamM m α :=
  fun s => do return (.ok (← x), s)

/-- Does something in the surroundings that may fail. -/
def outside? {α : Type} (x : m (Except Fault α)) : StreamM m α :=
  fun s => do return (← x, s)

end StreamM

end StreamTemplate
