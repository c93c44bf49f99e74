import Mathlib.Logic.Relation
import StreamTemplate.Loop.Run
import StreamTemplate.Proofs.Loop.Frame
import StreamTemplate.Proofs.Loop.Rule

/-!
# The moments of an event loop

A turn of an event loop is one step of it, but much happens in a turn, and code that writes output does
so in the middle of one. A moment is what an event loop is at between any two things that it does: it is
about to take its next turn, or it runs code, the rest of which is still to come. `Moment.Later` is what
can come of a moment. Code from outside runs between two turns only, and so do futures that are no tasks
get settled.
-/

namespace StreamTemplate

theorem EventLoop.loop_runAside {α : Type} (x : Run α) (l : EventLoop) :
    (l.runAside x).2 = { l with store := (x.run.run l.store).2 } := by
  unfold runAside
  dsimp only
  split <;> rfl

/-- What an event loop is at. -/
inductive Moment
  /-- It runs nothing. -/
  | rest (l : EventLoop)
  /-- It runs a task, which was as in `τ` when it was resumed. -/
  | task (l : EventLoop) (t : Nat) (τ : TaskState) (p : Process Store (Except Fault Value))
  /-- It runs code that belongs to no task. -/
  | aside {α : Type} (l : EventLoop) (p : Process Store (Except Fault α))

namespace Moment

/-- The event loop at a moment, with all that was done to its store so far. -/
def loop : Moment → EventLoop
  | rest l | task l .. | aside l _ => l

/-- The store at a moment. -/
def store (m : Moment) : Store :=
  m.loop.store

/-- The code that is run at a moment does `x`. -/
inductive Does {β : Type} (x : StateM Store β) : Moment → Moment → Prop
  | task {l : EventLoop} {t : Nat} {τ : TaskState} {k : β → Process Store (Except Fault Value)} :
      Does x (task l t τ (.act x k)) (task (l.withStore x).2 t τ (k (l.withStore x).1))
  | aside {α : Type} {l : EventLoop} {k : β → Process Store (Except Fault α)} :
      Does x (aside l (.act x k)) (aside (l.withStore x).2 (k (l.withStore x).1))

/-- One moment follows another. -/
inductive Next : Moment → Moment → Prop
  /-- The loop takes a whole turn. -/
  | turn {l : EventLoop} {r : Ready} {s : Store} (next : l.store.dequeue = some (r, s)) :
      Next (rest l) (rest (EventLoop.dispatch r { l with store := s }))
  /-- It begins a turn of a task. -/
  | resumed {l : EventLoop} {r : Ready} {s : Store} {t : Nat} {τ : TaskState}
      (thrown : Option Fault) (next : l.store.dequeue = some (r, s)) (pending : s.isPending t)
      (known : s.task? t = some τ) :
      Next (rest l) (task { l with store := EventLoop.enterTask t τ s } t τ (l.process t τ thrown))
  /-- It begins to render. -/
  | rendered {l : EventLoop} {context : Option Nat} {r : Render} {s : Store}
      (next : l.store.dequeue = some (.render context r, s)) :
      Next (rest l) (aside { l with store := { s with context } } (r.run mainEngine).run)
  /-- Code from outside begins that does what any code may do. -/
  | outside {α : Type} {l : EventLoop} {x : Run α}
      (usual : ∀ {gives : Progress → Prop} (C : ConductGiving gives), Obeys C x) :
      Next (rest l) (aside l x.run)
  /-- A future that is no task is settled. -/
  | settled {l : EventLoop} {w : Nat} {p : Progress} (plain : l.store.task? w = none) :
      Next (rest l) (rest (l.withStore (Store.complete w p)).2)
  | does {β : Type} {x : StateM Store β} {m m' : Moment} (does : Does x m m') : Next m m'
  /-- A task goes on until it waits or ends. -/
  | concluded {l : EventLoop} {t : Nat} {τ : TaskState} {p : Process Store (Except Fault Value)} :
      Next (task l t τ p) (rest (l.concludeTask t τ (p.run l.store)))
  /-- Code that belongs to no task goes on until it ends. No render context is current then. -/
  | ended {α : Type} {l : EventLoop} {p : Process Store (Except Fault α)} :
      Next (aside l p) (rest { l with store := { (p.run l.store).2 with context := none } })

/-- What can come of a moment. -/
abbrev Later : Moment → Moment → Prop :=
  Relation.ReflTransGen Next

/-- An event loop that settles goes through its moments. -/
theorem later_settle (rounds : Nat) (l : EventLoop) : (rest l).Later (rest (l.settle rounds)) := by
  induction rounds generalizing l with
  | zero => exact .refl
  | succ rounds ih =>
    unfold EventLoop.settle
    cases next : l.store.dequeue with
    | none => exact .refl
    | some taken => exact .head (.turn next) (ih _)

/-- Code from outside that cannot wait, and leaves no render context current, is run from beginning to
end. -/
theorem later_runAside {α : Type} {x : Run α}
    (usual : ∀ {gives : Progress → Prop} (C : ConductGiving gives), Obeys C x) {l : EventLoop}
    (left : (l.runAside x).2.store.context = none) : (rest l).Later (rest (l.runAside x).2) := by
  rw [EventLoop.loop_runAside] at left ⊢
  have same : (x.run.run l.store).2 = { (x.run.run l.store).2 with context := none } := by rw [← left]
  rw [same]
  exact .head (.outside usual) (.single .ended)

end Moment

/-- Nothing has been begun in an event loop. -/
structure EventLoop.Unbegun (l : EventLoop) : Prop where
  futures : l.store.futures = #[]
  waiting : l.waiting = []

end StreamTemplate
