import StreamTemplate.Loop.Await
import StreamTemplate.Loop.Context
import StreamTemplate.Proofs.Loop.Process

/-!
# Rules that code obeys

Code is written in several monads, one upon another. A rule is a predicate on what is written in each of
them that goes with `pure` and with `bind`; a rule for a monad is one for what may fail in it, too. A
`Conduct` is a rule for all code that runs in an event loop: it says what may be done to the store at
once, and what processes may do. All it has to allow for is what code begins with. That the rest of the
code obeys it, up to all that the event loop runs, is shown for every conduct at the same time. A conduct
may also restrict what futures come to by the code that runs (`ConductGiving`); what becomes of a task is
for the event loop to decide.
-/

namespace StreamTemplate

universe u v

/-- What it means in a monad that something obeys a rule. -/
class Ruled {ι : Type v} (R : ι) (m : Type → Type u) [Monad m] where
  holds : {α : Type} → m α → Prop
  pure : ∀ {α : Type} (a : α), holds (pure a : m α)
  bind : ∀ {α β : Type} {x : m α} {f : α → m β}, holds x → (∀ a, holds (f a)) → holds (x >>= f)

/-- Something obeys a rule. -/
def Obeys {ι : Type v} (R : ι) {m : Type → Type u} [Monad m] [Ruled R m] {α : Type} (x : m α) : Prop :=
  Ruled.holds R x

section

variable {ι : Type v} {R : ι} {m : Type → Type u} [Monad m] [Ruled R m] {α β : Type}

theorem obeys_pure (a : α) : Obeys R (pure a : m α) :=
  Ruled.pure a

theorem Obeys.bind {x : m α} {f : α → m β} (hx : Obeys R x) (hf : ∀ a, Obeys R (f a)) :
    Obeys R (x >>= f) :=
  Ruled.bind hx hf

theorem Obeys.map [LawfulMonad m] {x : m α} (hx : Obeys R x) (f : α → β) : Obeys R (f <$> x) := by
  rw [map_eq_pure_bind]
  exact hx.bind fun _ => obeys_pure _

theorem obeys_mapM [LawfulMonad m] {f : α → m β} (each : ∀ a, Obeys R (f a)) (xs : List α) :
    Obeys R (xs.mapM f) := by
  induction xs with
  | nil =>
    rw [List.mapM_nil]
    exact obeys_pure _
  | cons a xs ih =>
    rw [List.mapM_cons]
    exact (each a).bind fun _ => ih.bind fun _ => obeys_pure _

theorem obeys_forM {f : α → m PUnit} (each : ∀ a, Obeys R (f a)) (xs : List α) :
    Obeys R (xs.forM f) := by
  induction xs with
  | nil => exact obeys_pure _
  | cons a xs ih => exact (each a).bind fun _ => ih

/-- What may fail obeys a rule if what it is made of does. -/
instance : Ruled R (ExceptT Fault m) where
  holds x := Obeys R x.run
  pure _ := obeys_pure _
  bind hx hf := by
    refine Obeys.bind hx fun r => ?_
    cases r with
    | ok a => exact hf a
    | error _ => exact obeys_pure _

theorem obeys_throw (f : Fault) : Obeys R (throw f : ExceptT Fault m α) :=
  obeys_pure (m := m) _

theorem Obeys.run {x : ExceptT Fault m α} (hx : Obeys R x) : Obeys R x.run :=
  hx

end

section

variable {ι : Type v} {R : ι} {m : Type → Type} [Monad m] [Ruled R m] {α : Type}

/-- An operation on a stream obeys a rule if what it does outside does. -/
instance : Ruled R (StateT ChunkStream m) where
  holds x := ∀ st, Obeys R (x.run st)
  pure _ _ := obeys_pure _
  bind hx hf st := (hx st).bind fun p => hf p.1 p.2

namespace StreamM

theorem obeys_outside {x : m α} (hx : Obeys R x) : Obeys R (outside x) :=
  fun _ => hx.bind fun _ => obeys_pure _

theorem obeys_outside? {x : m (Except Fault α)} (hx : Obeys R x) : Obeys R (outside? x) :=
  fun _ => hx.bind fun _ => obeys_pure _

theorem obeys_get : Obeys R (get : StreamM m ChunkStream) :=
  fun st => (obeys_pure (st, st)).bind fun _ => obeys_pure _

theorem obeys_modify (f : ChunkStream → ChunkStream) : Obeys R (modify f : StreamM m Unit) :=
  fun st => (obeys_pure (PUnit.unit, f st)).bind fun _ => obeys_pure _

end StreamM

end

/-! ### What does not wait -/

namespace Act

variable {ι : Type v} {R : ι} [Ruled R (StateM Store)] {α : Type}

theorem obeys_always {x : StateM Store α} (hx : Obeys R x) : Obeys R (always x) :=
  Obeys.bind hx fun a => obeys_pure (Except.ok a)

theorem obeys_attempt {a : Act α} (ha : Obeys R a) : Obeys R (attempt a) :=
  Obeys.bind ha.run fun r => obeys_pure (Except.ok r)

theorem obeys_fail (f : ValueFault) : Obeys R (fail f : Act α) :=
  obeys_throw _

theorem obeys_ofExcept (r : Except Fault α) : Obeys R (ofExcept r) :=
  obeys_pure (m := StateM Store) r

end Act

/-! ### What may wait -/

namespace Run

variable {ι : Type v} {R : ι} [Ruled R (Process Store)] {α : Type}

theorem obeys_fail (f : ValueFault) : Obeys R (fail f : Run α) :=
  obeys_throw _

theorem obeys_attempt {x : Run α} (hx : Obeys R x) : Obeys R (attempt x) :=
  hx.run.map Except.ok

theorem obeys_ofExcept (r : Except Fault α) : Obeys R (ofExcept r) :=
  obeys_pure (m := Process Store) r

theorem obeys_ensuring {x : Run α} {last : Run Unit} (hx : Obeys R x) (hl : Obeys R last) :
    Obeys R (ensuring x last) :=
  (obeys_attempt hx).bind fun _ => hl.bind fun _ => obeys_ofExcept _

end Run

/-! ### Coroutines and generators -/

/-- A rule that allows for what coroutines and generators are run with. -/
structure RunsCoroutines {ι : Type v} (R : ι) [Ruled R (Process Store)] : Prop where
  get : Obeys R (Run.act get)
  setCoroutine : ∀ id state, Obeys R (Run.act (modify fun s => s.setCoroutine id state))
  setGenerator : ∀ id g, Obeys R (Run.act (modify fun s => s.setGenerator id g))
  wait : ∀ w, Obeys R (Run.wait w)
  stuck : ∀ {α : Type}, Obeys R (Run.stuck : Run α)
  runCoroutine : ∀ {e : Engine}, (∀ b, Obeys R (e.body b)) → ∀ id, Obeys R (runCoroutine e id)

namespace RunsCoroutines

variable {ι : Type v} {R : ι} [Ruled R (Process Store)] (h : RunsCoroutines R) {e : Engine}

include h

theorem awaitCoroutine (body : ∀ b, Obeys R (e.body b)) (id : Nat) : Obeys R (awaitCoroutine e id) := by
  refine h.get.bind fun s => ?_
  split
  · exact h.runCoroutine body id
  · exact obeys_throw _
  · exact obeys_throw _
  · exact obeys_throw _

theorem joinCoroutine (id rounds : Nat) : Obeys R (joinCoroutine id rounds) := by
  induction rounds with
  | zero => exact h.stuck
  | succ rounds ih =>
    refine h.get.bind fun s => ?_
    split
    · refine (Run.obeys_attempt (h.wait _)).bind fun waited => ?_
      split
      · exact ih
      · exact (h.setCoroutine id _).bind fun _ => obeys_throw _
    · exact obeys_throw _
    · exact obeys_throw _

theorem taskMain (body : ∀ b, Obeys R (e.body b)) (id : Nat) (thrown : Option Fault) :
    Obeys R (taskMain e id thrown) := by
  refine h.get.bind fun s => ?_
  split
  · exact h.runCoroutine body id
  · exact (h.setCoroutine id _).bind fun _ => obeys_throw _
  · exact (h.setCoroutine id _).bind fun _ => obeys_throw _
  · exact h.joinCoroutine id _
  · exact obeys_throw _
  · exact obeys_throw _

theorem nextYielded (generator : ∀ body, Obeys R (runGenerator e body)) (id : Nat) :
    Obeys R (nextYielded e id) := by
  refine h.get.bind fun s => ?_
  split
  · exact obeys_throw _
  · next g _ =>
    extract_lets goes
    have goes (u : Unit) : Obeys R (goes u) := by
      refine (h.setGenerator id _).bind fun _ => ?_
      refine (Run.obeys_attempt (generator g.body)).bind fun halt => ?_
      refine (h.setGenerator id _).bind fun _ => ?_
      split
      · exact obeys_pure _
      · exact obeys_throw _
      · exact obeys_throw _
    split
    · exact (obeys_throw _).bind goes
    · exact goes ()

end RunsCoroutines

/-! ### Conducts -/

/-- Two stores differ in nothing that belongs to anyone in particular: what lies on the heap, what is
ready to run and what was noted may differ. -/
structure Store.Same (s s' : Store) : Prop where
  coroutines : s'.coroutines = s.coroutines
  generators : s'.generators = s.generators
  futures : s'.futures = s.futures
  streams : s'.streams = s.streams
  contexts : s'.contexts = s.contexts
  context : s'.context = s.context

/-- A rule for all code that runs in an event loop, if it brings futures to no outcomes but those that
the rule allows for. -/
structure ConductGiving (gives : Progress → Prop) where
  /-- What may be done at once. -/
  act : {α : Type} → StateM Store α → Prop
  /-- What a process may do. -/
  run : {α : Type} → Process Store α → Prop
  /-- What the process of a render with that render context may do. -/
  within : Nat → {α : Type} → Process Store α → Prop
  /-- What it may do to its end, at which the render context from before is to be current again. -/
  leaves : Nat → Option Nat → {α : Type} → Process Store α → Prop
  act_pure : ∀ {α : Type} (a : α), act (pure a)
  act_bind : ∀ {α β : Type} {x : StateM Store α} {f : α → StateM Store β},
    act x → (∀ a, act (f a)) → act (x >>= f)
  run_done : ∀ {α : Type} (a : α), run (.done a)
  run_stuck : ∀ {α : Type}, run (.stuck : Process Store α)
  run_act : ∀ {α : Type} {x : StateM Store α}, act x → run (.ofState x)
  run_wait : ∀ {α : Type} {w : Wait} {k : Option Fault → Process Store α},
    (∀ thrown, run (k thrown)) → run (.wait w k)
  run_bind : ∀ {α β : Type} {p : Process Store α} {f : α → Process Store β},
    run p → (∀ a, run (f a)) → run (p >>= f)
  within_run : ∀ {α : Type} {context : Nat} {p : Process Store α}, run p → within context p
  within_bind : ∀ {α β : Type} {context : Nat} {p : Process Store α} {f : α → Process Store β},
    within context p → (∀ a, within context (f a)) → within context (p >>= f)
  /-- A render notes its lines in its own render context. -/
  setLine : ∀ context line, within context (.ofState (Store.setLine context line))
  leaves_within : ∀ {α β : Type} {context : Nat} {before : Option Nat} {p : Process Store α}
    {f : α → Process Store β}, within context p → (∀ a, leaves context before (f a)) →
    leaves context before (p >>= f)
  leaves_back : ∀ {α : Type} {context : Nat} {before : Option Nat} {p : Process Store α}, run p →
    leaves context before (.ofState (Store.setContext before) >>= fun _ => p)
  /-- A render enters a render context that it makes. -/
  newContext : ∀ {α : Type} (c : RenderContext) {f : Nat → Option Nat → Process Store α},
    (∀ context before, leaves context before (f context before)) →
    run (do
      let context ← .ofState (Store.newContext c)
      let s ← .ofState get
      .ofState (Store.setContext (some context))
      f context s.context)
  unseen : ∀ {α : Type} {x : StateM Store α}, (∀ s : Store, s.Same (x.run s).2) → act x
  newCoroutine : ∀ body, act (Store.newCoroutine body)
  closeCoroutine : ∀ id, act (Store.closeCoroutine id).run
  newGenerator : ∀ body, act (Store.newGenerator body)
  newFuture : act Store.newFuture
  newTask : ∀ coroutine report, act (Store.newTask coroutine report)
  modifyFuture : ∀ id {f : Future → Future}, (∀ future, (f future).progress = future.progress) →
    (∀ future, (f future).task.map (·.coroutine) = future.task.map (·.coroutine)) →
    (∀ future, (f future).task.map (·.context) = future.task.map (·.context)) →
    act (Store.modifyFuture id f)
  /-- A pull that waits can be woken. -/
  wakes : gives (.finished .none)
  cancels : gives .cancelled
  complete : ∀ id progress, gives progress → act (Store.complete id progress)
  setStreams : ∀ f : Array ChunkStream → Array ChunkStream, act (modify fun s => { s with streams := f s.streams })
  /-- Awaiting a coroutine, if the code of coroutines behaves. -/
  await : ∀ {e : Engine}, (∀ body, run (e.body body).run) → ∀ id, run (awaitCoroutine e id).run
  /-- The task of a coroutine. -/
  main : ∀ {e : Engine}, (∀ body, run (e.body body).run) →
    ∀ id thrown, run (taskMain e id thrown).run
  /-- Asking a generator for an item, if what generators are made of behaves. -/
  yield : ∀ {e : Engine}, (∀ body, run (runGenerator e body).run) →
    ∀ id, run (nextYielded e id).run

/-- A rule for all code that runs in an event loop, whatever outcomes it brings futures to. -/
abbrev Conduct :=
  ConductGiving fun _ => True

section

variable {gives : Progress → Prop} {C : ConductGiving gives} {α : Type}

instance : Ruled C (StateM Store) where
  holds := C.act
  pure := C.act_pure
  bind := C.act_bind

theorem Obeys.act {x : StateM Store α} (hx : Obeys C x) : C.act x :=
  hx

theorem obeys_get : Obeys C (get : StateM Store Store) :=
  C.unseen fun _ => ⟨rfl, rfl, rfl, rfl, rfl, rfl⟩

namespace Act

theorem obeys_unseen {a : Act α} (unseen : ∀ s : Store, s.Same (a.run s).2) : Obeys C a :=
  C.unseen unseen

theorem obeys_work (w : Work α) : Obeys C (work w) :=
  obeys_unseen fun _ => ⟨rfl, rfl, rfl, rfl, rfl, rfl⟩

theorem obeys_view (f : Heap → Except Fault α) : Obeys C (view f) :=
  obeys_unseen fun _ => ⟨rfl, rfl, rfl, rfl, rfl, rfl⟩

theorem obeys_heap : Obeys C heap :=
  obeys_unseen fun _ => ⟨rfl, rfl, rfl, rfl, rfl, rfl⟩

theorem obeys_get : Obeys C (get : Act Store) :=
  obeys_unseen fun _ => ⟨rfl, rfl, rfl, rfl, rfl, rfl⟩

theorem obeys_modify {f : Store → Store} (same : ∀ s : Store, s.Same (f s)) :
    Obeys C (modify f : Act Unit) :=
  obeys_unseen same

theorem obeys_setStreams (f : Array ChunkStream → Array ChunkStream) :
    Obeys C (modify fun s => { s with streams := f s.streams } : Act Unit) :=
  C.act_bind (C.setStreams f) fun _ => C.act_pure _

end Act

instance : Ruled C (Process Store) where
  holds := C.run
  pure := C.run_done
  bind := C.run_bind

theorem Obeys.conducts {p : Process Store α} (hp : Obeys C p) : C.run p :=
  hp

theorem obeys_ofState {x : StateM Store α} (hx : Obeys C x) : Obeys C (Process.ofState x) :=
  C.run_act hx

namespace Run

theorem obeys_act {a : Act α} (ha : Obeys C a) : Obeys C (act a) :=
  obeys_ofState ha.run

theorem obeys_work (w : Work α) : Obeys C (work w) :=
  obeys_act (Act.obeys_work w)

theorem obeys_get : Obeys C (act get) :=
  obeys_act Act.obeys_get

theorem obeys_wait (w : Wait) : Obeys C (wait w) := by
  refine C.run_wait fun thrown => ?_
  cases thrown <;> exact C.run_done _

theorem obeys_stuck : Obeys C (stuck : Run α) :=
  C.run_stuck

end Run

end

end StreamTemplate
