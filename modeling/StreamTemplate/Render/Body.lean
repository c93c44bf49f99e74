import StreamTemplate.Render.Interpreter

/-!
# Rendering the body of a template

While a body runs its render context is current. When it ends its stream is closed: with nothing
more to say, with a report of the fault raised in a tag, or, if waiting code was cancelled, as torn
down. A cancellation is passed on.
-/

namespace StreamTemplate

open Program

universe u

/-- What a body needs besides its machine: the render context and the stream of its render. -/
structure Stage (m : Type → Type u) where
  /-- Makes a new render context current. -/
  enterContext : m Unit
  /-- Makes the render context from before current again. -/
  leaveContext : m Unit
  /-- Where the render is. -/
  location : m String
  /-- A fault as the stream reports it; getting its text may itself fail. -/
  explain : Fault → m (Except Fault Fault)
  /-- Closes the stream. -/
  close : Option Fault → m Unit

section

variable {κ γ : Type} {m : Type → Type u} [Monad m]

/-- The signal for the end of a loop leaves waiting code as an error. -/
def leavingBody (waits : Bool) (fault : Fault) : Fault :=
  if waits && fault.isA .stopIteration then .say .runtime "coroutine raised StopIteration"
  else fault

/-- Ends a body that a fault has left. The result is the fault that leaves the render. -/
def endWithFault (s : Stage m) (waits : Bool) (fault : Fault) : m (Except Fault Unit) := do
  if fault.isOrdinary then
    match ← s.explain fault with
    | .ok report =>
      s.close (some report)
      s.leaveContext
      return .ok ()
    | .error other =>
      s.leaveContext
      return .error other
  else
    if waits then
      let place ← s.location
      s.close (some (.aborted [.text s!"Render cancelled at {place}"] (some fault)))
    s.leaveContext
    return .error fault

/-- Runs a body from beginning to end. The result is a fault if one leaves the render. -/
def runBody (h : Machine κ γ m) (s : Stage m) (waits : Bool) (rounds : Nat)
    (body : List (Node κ)) : m (Except Fault Unit) := do
  s.enterContext
  match ← (runNodes h waits rounds body).run with
  | .ok _ =>
    s.leaveContext
    s.close none
    return .ok ()
  | .error fault => endWithFault s waits (leavingBody waits fault)

end

end StreamTemplate
