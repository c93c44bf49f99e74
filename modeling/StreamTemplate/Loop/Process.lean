import StreamTemplate.Loop.Store

/-!
# Resumable computations

A process is a computation over shared state that can stop to wait and be resumed later. It is a
tree: it does things to the state one after the other, waits, and ends with a result. `Process.run`
follows it up to the next point at which it waits. A process that would go on beyond all bounds is
stuck.
-/

namespace StreamTemplate

/-- What a process waits for. -/
inductive Wait where
  /-- Its next turn. -/
  | turn
  /-- The completion of a future. -/
  | future (id : Nat)
  deriving DecidableEq, Repr

/-- A computation over a state that can wait. It is resumed with a fault if one is thrown into
it. -/
inductive Process (σ α : Type) : Type 1 where
  | done (a : α)
  | stuck
  /-- Does something that does not wait. -/
  | act {β : Type} (x : StateM σ β) (k : β → Process σ α)
  | wait (w : Wait) (k : Option Fault → Process σ α)

/-- Where a process has stopped. -/
inductive Halted (σ α : Type) : Type 1 where
  | done (a : α)
  | stuck
  | waiting (w : Wait) (k : Option Fault → Process σ α)

namespace Process

variable {σ α β : Type}

/-- Goes on with the result. -/
def bind (f : α → Process σ β) : Process σ α → Process σ β
  | done a => f a
  | stuck => stuck
  | act x k => act x fun b => (k b).bind f
  | wait w k => wait w fun thrown => (k thrown).bind f

instance : Monad (Process σ) where
  pure := done
  bind p f := p.bind f

/-- Follows a process until it ends or waits. -/
def run : Process σ α → σ → Halted σ α × σ
  | done a, s => (.done a, s)
  | stuck, s => (.stuck, s)
  | act x k, s =>
    let (b, s) := x.run s
    (k b).run s
  | wait w k, s => (.waiting w k, s)

/-- A computation that does not wait. -/
def ofState (x : StateM σ α) : Process σ α :=
  act x done

end Process

/-- Running code: a process over the store that may fail. -/
abbrev Run (α : Type) := ExceptT Fault (Process Store) α

namespace Run

variable {α : Type}

/-- Does something that does not wait. -/
def act (a : Act α) : Run α :=
  ExceptT.mk (Process.ofState a.run)

/-- Does something on the heap. -/
def work (w : Work α) : Run α :=
  act (Act.work w)

/-- Waits. -/
def wait (w : Wait) : Run Unit :=
  ExceptT.mk (.wait w fun
    | none => .done (.ok ())
    | some fault => .done (.error fault))

/-- Does not go on. -/
def stuck : Run α :=
  ExceptT.mk .stuck

/-- Fails. -/
def fail (fault : ValueFault) : Run α :=
  throw fault.toFault

/-- Goes on whether something fails or not. -/
def attempt (x : Run α) : Run (Except Fault α) :=
  ExceptT.mk (.ok <$> x.run)

/-- Takes a result that is there or a fault. -/
def ofExcept (r : Except Fault α) : Run α :=
  ExceptT.mk (.done r)

/-- Does something last, whether something else fails or not. -/
def ensuring (x : Run α) (last : Run Unit) : Run α := do
  let r ← attempt x
  last
  ofExcept r

end Run

/-- How often a loop that nothing else bounds goes round before it is stuck: more often than anyone
could wait for. -/
def patience : Nat :=
  Number.twoTo 62

end StreamTemplate
