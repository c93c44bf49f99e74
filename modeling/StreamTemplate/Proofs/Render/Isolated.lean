import StreamTemplate.Proofs.Loop.Moment
import StreamTemplate.Proofs.Loop.Nesting
import StreamTemplate.Proofs.Loop.Turn
import StreamTemplate.Proofs.Render.Report

/-!
# Renders that do not see each other

However renders are nested and however they take turns, code in a tag finds the render context of its own
render current, and when the body of a render is over the one from before is current again. Two things
make it so. Code works with render contexts as with a stack, as long as it finds the same one current
whenever it goes on after a wait (`Conduct.nesting`). And that it does: the event loop makes the render
context that a task had current when it stopped current again when it resumes the task, whatever has run
meanwhile (`Moment.Apart`).
-/

namespace StreamTemplate

/-! ### What has come of a task -/

/-- What is left of the code of a task, which has gone on from its beginning among others that leave the
render context alone that is current in it. -/
def Process.Came (p : Process Store (Except Fault Value)) (s : Store) : Prop :=
  ∃ coroutine thrown s₀, (taskMain mainEngine coroutine thrown).run.GoesAmid Store.Resumes s₀ p s

namespace Process.Came

variable {s s' : Store}

theorem act {β : Type} {x : StateM Store β} {k : β → Process Store (Except Fault Value)}
    (h : (Process.act x k).Came s) : (k (x.run s).1).Came (x.run s).2 := by
  obtain ⟨coroutine, thrown, s₀, goes⟩ := h
  exact ⟨coroutine, thrown, s₀, goes.trans (.act .here)⟩

theorem resume {w : Wait} {k : Option Fault → Process Store (Except Fault Value)}
    (h : (Process.wait w k).Came s) (resumes : s.Resumes s') (thrown : Option Fault) :
    (k thrown).Came s' := by
  obtain ⟨coroutine, thrown', s₀, goes⟩ := h
  exact ⟨coroutine, thrown', s₀, goes.trans (.wait resumes .here)⟩

theorem waiting {p : Process Store (Except Fault Value)} {w : Wait}
    {k : Option Fault → Process Store (Except Fault Value)} (h : p.Came s)
    (halted : p.run s = (.waiting w k, s')) : (Process.wait w k).Came s' := by
  obtain ⟨coroutine, thrown, s₀, goes⟩ := h
  exact ⟨coroutine, thrown, s₀, goes.trans (.of_waiting halted)⟩

/-- It works with render contexts as with a stack, on top of the one that the task began in. -/
theorem nests {p : Process Store (Except Fault Value)} (h : p.Came s) :
    ∃ root entered, p.Nests root [] entered s := by
  obtain ⟨coroutine, thrown, s₀, goes⟩ := h
  have main : Obeys Conduct.nesting (taskMain mainEngine coroutine thrown) :=
    obeys_taskMain (obeys_engine 200) coroutine thrown
  exact ⟨s₀.context, (main.run s₀.context [] s₀ ⟨rfl, nofun⟩).of_goesAmid goes⟩

end Process.Came

/-! ### Event loops -/

namespace EventLoop

/-- The tasks that wait have the render context current that was so when they stopped. -/
def Apart (l : EventLoop) : Prop :=
  ∀ t k, (t, k) ∈ l.waiting → ∃ w s, (Process.wait w k).Came s ∧ s.Recalls l.store ∧
    (l.store.task? t).map (·.context) = some s.context

/-- Nothing is run, so no render context is current. -/
structure Quiet (l : EventLoop) : Prop where
  apart : l.Apart
  context : l.store.context = none

variable {l : EventLoop} {s : Store} {t : Nat} {τ : TaskState}

theorem lt_of_context {i : Option Nat} (known : (s.task? t).map (·.context) = some i) :
    t < s.futures.size := by
  obtain ⟨τ, task, -⟩ := Option.map_eq_some_iff.mp known
  exact Pull.lt_of_task? task

theorem Apart.onward (h : l.Apart) (remembers : l.store.Remembers s) : { l with store := s }.Apart := by
  intro t k waits
  obtain ⟨w, s', came, recalls, context⟩ := h t k waits
  refine ⟨w, s', came, recalls.trans remembers.recalls, ?_⟩
  exact (remembers.tasks t (lt_of_context context)).trans context

theorem Quiet.stays (h : l.Quiet) (stays : l.store.Stays s) : { l with store := s }.Quiet :=
  ⟨h.apart.onward stays.toRemembers, stays.context.trans h.context⟩

theorem Quiet.withStore {α : Type} (h : l.Quiet) {x : StateM Store α} (hx : Obeys Conduct.nesting x) :
    (l.withStore x).2.Quiet :=
  h.stays (hx l.store)

theorem remembers_context (context : Option Nat) (s : Store) : s.Remembers { s with context } :=
  .of_same rfl rfl

theorem remembers_enterTask (t : Nat) (τ : TaskState) (s : Store) : s.Remembers (enterTask t τ s) := by
  have reset : Obeys Conduct.nesting
      (Store.modifyTask t fun τ => { τ with mustCancel := false, waiting := none }) :=
    Store.obeys_modifyTask t (fun _ => rfl) fun _ => rfl
  have stays : s.Stays _ := reset s
  exact stays.toRemembers.trans (remembers_context τ.context _)

/-- A task that is resumed finds the render context current that was so when it stopped. -/
theorem Apart.resumed (h : l.Apart) (known : l.store.task? t = some τ) (thrown : Option Fault) :
    { l with store := enterTask t τ l.store }.Apart ∧
      ((enterTask t τ l.store).task? t).map (·.context) = some τ.context ∧
      (l.process t τ thrown).Came (enterTask t τ l.store) := by
  refine ⟨h.onward (remembers_enterTask t τ l.store), ?_, ?_⟩
  · rw [(remembers_enterTask t τ l.store).tasks t (Pull.lt_of_task? known), known]
    rfl
  · rcases Pull.process_cases l t τ thrown with ⟨k, waits, same⟩ | same
    · rw [same]
      obtain ⟨w, s, came, recalls, context⟩ := h t k waits
      have current : τ.context = s.context := by
        rw [known] at context
        exact Option.some.inj context
      exact came.resume ⟨current, recalls.trans (remembers_enterTask t τ l.store).recalls⟩ thrown
    · rw [same]
      exact ⟨τ.coroutine, thrown, _, .here⟩

theorem task?_leaveTask (t w : Nat) (s : Store) : (leaveTask t s).task? w =
    if t = w then (s.task? w).map ({ · with context := s.context }) else s.task? w := by
  show (Array.modify s.futures t _)[w]?.bind (·.task) = _
  unfold Store.task?
  rw [Array.getElem?_modify]
  split
  · cases s.futures[w]? <;> rfl
  · rfl

/-- What follows the last code of a task is done while no render context is current. -/
theorem Apart.concludeTask (h : l.Apart) {c : Option Nat}
    (known : (l.store.task? t).map (·.context) = some c)
    {p : Process Store (Except Fault Value)} (came : p.Came l.store) :
    (l.concludeTask t τ (p.run l.store)).Quiet := by
  obtain ⟨root, entered, nests⟩ := came.nests
  have ran := nests.run
  have waits {w : Wait} {k : Continuation} (halted : (p.run l.store).1 = .waiting w k) :
      (Process.wait w k).Came (p.run l.store).2 :=
    came.waiting (Prod.ext halted rfl)
  generalize p.run l.store = stopped at ran waits ⊢
  obtain ⟨halted, s₁⟩ := stopped
  obtain ⟨last, nesting, store⟩ := store_concludeTask l t τ halted s₁
  have stays : (leaveTask t s₁).Stays (l.concludeTask t τ (halted, s₁)).store := by
    rw [store]
    exact nesting Conduct.nesting (leaveTask t s₁)
  have recalls : s₁.Recalls (l.concludeTask t τ (halted, s₁)).store := stays.recalls
  -- The others keep what they have, and the task keeps the render context that it has come to.
  have context {t' : Nat} {c : Option Nat} (before : (l.store.task? t').map (·.context) = some c) :
      ((l.concludeTask t τ (halted, s₁)).store.task? t').map (·.context) =
        some (if t = t' then s₁.context else c) := by
    obtain ⟨τ', task, same⟩ :=
      Option.map_eq_some_iff.mp ((ran.tasks t' (lt_of_context before)).trans before)
    have left : ((leaveTask t s₁).task? t').map (·.context) = some (if t = t' then s₁.context else c) := by
      rw [task?_leaveTask, task]
      split
      · rfl
      · exact congrArg some same
    exact (stays.tasks t' (lt_of_context left)).trans left
  refine ⟨fun t' k waits' => ?_, stays.context⟩
  rcases mem_concludeTask waits' with ⟨before, other⟩ | ⟨rfl, w, rfl⟩
  · obtain ⟨w, s, came', recalls', context'⟩ := h t' k before
    refine ⟨w, s, came', recalls'.trans (ran.recalls.trans recalls), ?_⟩
    rw [context context', if_neg other.symm]
  · refine ⟨w, s₁, waits rfl, recalls, ?_⟩
    rw [context known, if_pos rfl]

theorem Quiet.stepTask (h : l.Quiet) (t : Nat) (thrown : Option Fault) : (l.stepTask t thrown).Quiet := by
  rcases Pull.stepTask_cases l t thrown with same | ⟨τ, known, same⟩
  · rw [same]
    exact h
  · rw [same]
    obtain ⟨apart, known', came⟩ := h.apart.resumed known (thrownInto τ thrown)
    exact apart.concludeTask known' came

/-- Code that belongs to no task is run to its end. -/
theorem Apart.ended {α : Type} (h : l.Apart) {p : Process Store (Except Fault α)} {root : Option Nat}
    {entered : List Frame} (nests : p.Nests root [] entered l.store) :
    { l with store := { (p.run l.store).2 with context := none } }.Quiet :=
  ⟨h.onward (nests.run.trans (remembers_context none _)), rfl⟩

theorem nests_render (r : Render) (s : Store) : (r.run mainEngine).run.Nests s.context [] [] s := by
  have run : Obeys Conduct.nesting (r.run mainEngine) := r.obeys_run (obeys_engine 200)
  exact run.run s.context [] s ⟨rfl, nofun⟩

theorem dispatch_render (l : EventLoop) (context : Option Nat) (r : Render) :
    l.dispatch (.render context r) = { l with store :=
      { ((r.run mainEngine).run.run { l.store with context }).2 with context := none } } := by
  have aside := loop_runAside (r.run mainEngine) { l with store := { l.store with context } }
  show ({ (runAside _ _).2 with store := { (runAside _ _).2.store with context := none } } : EventLoop) = _
  rw [aside]

/-- A turn of the loop. -/
theorem Quiet.dispatch (h : l.Quiet) (r : Ready) : (l.dispatch r).Quiet := by
  cases r with
  | step t thrown => exact h.stepTask t thrown
  | wake t future => exact h.stepTask t _
  | notice stream future =>
    exact h.withStore (Store.obeys_onStream stream
      (ChunkStream.obeys_noticed (Store.obeys_surroundings stream) future)).run
  | render context r =>
    have entered := h.apart.onward (remembers_context context l.store)
    rw [dispatch_render]
    exact entered.ended (nests_render r { l.store with context })
  | spawn context coroutine =>
    have spawned : Store.Stays { l.store with context } _ :=
      obeys_spawnBody (C := Conduct.nesting) coroutine _
    have entered := remembers_context context l.store
    exact ⟨h.apart.onward (entered.trans (spawned.toRemembers.trans (remembers_context none _))), rfl⟩

theorem Quiet.dequeue (h : l.Quiet) {r : Ready} (next : l.store.dequeue = some (r, s)) :
    { l with store := s }.Quiet := by
  obtain ⟨ready, rfl, -⟩ := Store.dequeue_eq next
  exact h.stays (.of_same rfl rfl rfl)

end EventLoop

/-! ### Moments -/

namespace Moment

/-- Tasks have the render context current that was so when they stopped, and while nothing is run none is
current. What is run works with render contexts as with a stack. -/
def Apart : Moment → Prop
  | rest l => l.Quiet
  | task l t _ p => l.Apart ∧ (∃ c, (l.store.task? t).map (·.context) = some c) ∧ p.Came l.store
  | aside l p => l.Apart ∧ ∃ root entered, p.Nests root [] entered l.store

variable {m m' : Moment}

theorem Does.apart {β : Type} {x : StateM Store β} (does : Does x m m') (h : m.Apart) : m'.Apart := by
  cases does with
  | @task l t τ k =>
    obtain ⟨apart, ⟨c, known⟩, came⟩ := h
    obtain ⟨root, entered, -, respects, -⟩ := came.nests
    refine ⟨apart.onward respects.toRemembers, ⟨c, ?_⟩, came.act⟩
    exact (respects.tasks t (EventLoop.lt_of_context known)).trans known
  | aside =>
    obtain ⟨apart, root, entered, -, respects, entered', -, rest⟩ := h
    exact ⟨apart.onward respects.toRemembers, root, entered', rest⟩

/-- Each step from one moment to the next leaves the render contexts of others alone. -/
theorem Next.apart (next : Next m m') (h : m.Apart) : m'.Apart := by
  cases next with
  | turn next => exact (EventLoop.Quiet.dequeue h next).dispatch _
  | @resumed l r s t τ thrown next pending known =>
    obtain ⟨apart, known', came⟩ := (EventLoop.Quiet.dequeue h next).apart.resumed known thrown
    exact ⟨apart, ⟨τ.context, known'⟩, came⟩
  | @rendered l context r s next =>
    refine ⟨(EventLoop.Quiet.dequeue h next).apart.onward ?_, context, [], ?_⟩
    · exact EventLoop.remembers_context context s
    · exact EventLoop.nests_render r { s with context }
  | @outside α l x usual =>
    have nests := (usual Conduct.nesting).run none [] l.store ⟨h.context, nofun⟩
    exact ⟨h.apart, none, [], nests⟩
  | settled plain => exact EventLoop.Quiet.withStore h (Store.obeys_complete _ trivial)
  | does does => exact does.apart h
  | concluded =>
    obtain ⟨apart, ⟨c, known⟩, came⟩ := h
    exact apart.concludeTask known came
  | ended =>
    obtain ⟨apart, root, entered, nests⟩ := h
    exact apart.ended nests

theorem Apart.later (h : m.Apart) (later : m.Later m') : m'.Apart := by
  induction later with
  | refl => exact h
  | tail _ next ih => exact next.apart ih

theorem apart_of_unbegun {l : EventLoop} (unbegun : l.Unbegun) (context : l.store.context = none) :
    (rest l).Apart := by
  refine ⟨fun t k waits => ?_, context⟩
  rw [unbegun.waiting] at waits
  cases waits

end Moment

/-! ### What code in tags is told -/

namespace Eval

variable {s s' : Store} {ρ ρ' : RenderState} {α β : Type}

theorem run_act {a : Act α} {v : α} (h : a.run.run s = (.ok v, s')) (ρ : RenderState) :
    (Eval.act a ρ).run s = (.done (.ok v, ρ), s') := by
  show ((Process.done (a.run.run s).1 >>= fun r => pure (r, ρ)).run (a.run.run s).2) = _
  rw [h]
  rfl

theorem run_bind {x : Eval α} {v : α} (first : (x ρ).run s = (.done (.ok v, ρ'), s')) (k : α → Eval β) :
    ((x >>= k) ρ).run s = (k v ρ').run s' := by
  show (x ρ >>= fun p => ExceptT.bindCont k p.1 p.2).run s = _
  rw [Process.run_bind, first]
  rfl

variable {root : Option Nat} {outer : List Frame} {f : Frame} {id : Nat}

theorem run_callScript_context (shows : s.Shows root (f :: outer)) (field : ContextField) (hasContext : Bool)
    (returns : Option Recipe) : ∃ line,
      (callScript (.mk none none (some field) hasContext returns)).run.run s =
        (.ok (contextPart { f.2 with line } field), s) := by
  obtain ⟨line, current⟩ := shows.context?
  have got : (get : Act Store).run.run s = (.ok s, s) := rfl
  have asked : Store.currentContext.run.run s = (.ok { f.2 with line }, s) := by
    unfold Store.currentContext
    rw [Act.run_bind, got]
    dsimp only
    rw [current]
    rfl
  refine ⟨line, ?_⟩
  show ((fun c => contextPart c field) <$> Store.currentContext).run.run s = _
  rw [map_eq_pure_bind, Act.run_bind, asked]
  rfl

/-- A function that is called in a tag and returns a part of the render context is told of the template of the
one entered last. -/
theorem run_call_context (shows : s.Shows root (f :: outer)) {field : ContextField} {hasContext : Bool}
    {returns : Option Recipe}
    (function : s.heap.cell? id = some (.function (.mk none none (some field) hasContext returns)))
    (args : List Value) (ρ : RenderState) : ∃ line,
      (Eval.call (.cell .function id) args ρ).run s =
        (.done (.ok (contextPart { f.2 with line } field), ρ), s) := by
  obtain ⟨line, told⟩ := run_callScript_context shows field hasContext returns
  have looked : (Eval.act Act.heap ρ).run s = (.done (.ok s.heap, ρ), s) := run_act rfl ρ
  refine ⟨line, ?_⟩
  unfold Eval.call
  rw [run_bind looked]
  dsimp only
  rw [function]
  exact run_act told ρ

end Eval

/-! ### Renders -/

namespace Render

open Program

/-- The render context of a render that begins in a store. -/
def frame (r : Render) (s : Store) : Frame :=
  (s.contexts.size, r.template.context)

variable {r : Render} {s : Store} {root : Option Nat} {outer : List Frame}

theorem shows_begun (r : Render) (shows : s.Shows root outer) :
    (r.begun s).Shows root (r.frame s :: outer) := by
  have made := Store.stays_newContext r.template.context s
  have new : (s.contexts.push r.template.context)[s.contexts.size]? = some r.template.context :=
    Array.getElem?_push_size
  refine ⟨rfl, fun f mem => ?_⟩
  rcases List.mem_cons.mp mem with rfl | mem
  · exact ⟨r.template.context.line, new⟩
  · exact made.recalls f (shows.has f mem)

/-- A render that begins in a store in which the render contexts `outer` have been entered works with its
own one and leaves it. -/
structure Isolated (r : Render) (e : Engine) (root : Option Nat) (outer : List Frame) (s : Store) : Prop where
  /-- It comes to run its nodes. -/
  begins : ∃ rest, (r.run e).run.GoesAmid Store.Resumes s
    (r.nodes e s.contexts.size { scope := r.scope } >>= rest) (r.begun s)
  /-- Its own render context is current then. -/
  shows : (r.begun s).Shows root (r.frame s :: outer)
  /-- Whenever that is so, code that asks for the current render context is told of its template. -/
  told : ∀ s' : Store, s'.Shows root (r.frame s :: outer) →
    ∃ line, s'.context? = some { r.template.context with line }
  /-- A data function that a tag then calls to have a part of it, such as the name, returns that of its
  template. -/
  asked : ∀ (s' : Store) (id : Nat) (field : ContextField) (hasContext : Bool) (returns : Option Recipe)
    (args : List Value) (ρ : RenderState), s'.Shows root (r.frame s :: outer) →
    s'.heap.cell? id = some (.function (.mk none none (some field) hasContext returns)) →
    ∃ line, (Eval.call (.cell .function id) args ρ).run s' =
      (.done (.ok (Eval.contextPart { r.template.context with line } field), ρ), s')
  /-- Whatever a machine does for the nodes begins while that is so: nothing is asked of what would begin
  otherwise. -/
  nodes : ∀ h : Machine Tag.Code Iteration Rendering,
    h.Follows (Placed.mk Conduct.nesting s.contexts.size) → ∀ s', s'.Shows root (r.frame s :: outer) →
    ((runNodes h r.template.compiled.isAsync patience r.template.compiled.body).run
      { scope := r.scope }).Nests root (r.frame s :: outer) [] s'
  /-- The machine of the render is such a one: code that begins in the render context of the render works
  with others as with a stack from there on. -/
  machine : (Rendering.machine e r s.contexts.size).Follows (Placed.mk Conduct.nesting s.contexts.size)
  /-- It enters its own render context and those of renders inside it, and leaves them in the reverse order. -/
  nests : (r.run e).run.Nests root outer [] s
  /-- However it ends, what was current before is current again. -/
  back : ∀ result s', (r.run e).run.RunsAmid Store.Resumes s result s' → s'.Shows root outer

theorem begins_nodes (e : Engine) (r : Render) (s : Store) : ∃ rest,
    (r.run e).run.GoesAmid Store.Resumes s
      (r.nodes e s.contexts.size { scope := r.scope } >>= rest) (r.begun s) := by
  rw [r.run_eq]
  exact ⟨_, .act (.act (.act .here))⟩

/-- However renders are nested and whatever runs while they wait, code in their tags finds the render context
of its own render current, and when a body ends, by a fault or a cancellation as well, the one from before
is current again. That depends on the same one being current whenever a wait is over; in an event loop it
is, at all times. -/
theorem contexts_apart (depth : Nat) (r : Render) :
    (∀ root outer s, s.Shows root outer → r.Isolated (engine depth) root outer s) ∧
    ∀ l : EventLoop, l.Unbegun → l.store.context = none → ∀ m, (Moment.rest l).Later m → m.Apart := by
  refine ⟨fun root outer s shows => ?_, fun l unbegun context m later => ?_⟩
  · have run : Obeys Conduct.nesting (r.run (engine depth)) := r.obeys_run (obeys_engine depth)
    have nests := run.run root outer s shows
    constructor
    case begins => exact begins_nodes (engine depth) r s
    case shows => exact r.shows_begun shows
    case told => exact fun s' => Store.Shows.context?
    case asked => exact fun s' id field hasContext returns args ρ shows' function =>
      Eval.run_call_context shows' function args ρ
    case nodes =>
      intro h follows s' shows'
      have nodes := obeys_runNodes follows r.template.compiled.isAsync patience r.template.compiled.body
      exact nodes { scope := r.scope } r.template.context root outer s' shows'
    case machine => exact Rendering.follows_machine (obeys_engine depth) r _
    case nests => exact nests
    case back => exact fun result s' => nests.of_runsAmid
  · exact (Moment.apart_of_unbegun unbegun context).later later

/-- A render whose body awaits something and then writes the name of its template. -/
def waitsAndTells (name : String) (id : Nat) : Render where
  template := ⟨some name, none, "", ⟨[], [
    .simple ⟨1, 0⟩ "await pause" (.statements [.expr (.await (.name "pause" 1) 1)]) "<% await pause %>",
    .output ⟨2, 0⟩ true "told()" (.expression (.call (.name "told" 2) [] 2)) "<%= told() %>"], true⟩,
    { enableAsync := true }⟩
  scope := Scope.initial.setAll [("pause", .process .coroutine id), ("told", .cell .function 0)]
  stream := id

/-- What three such renders need; the last one has nothing to wait for. -/
def pauses : Store where
  heap := { cells := #[.function (.mk none none (some .templateName) false none)] }
  coroutines := #[{ body := .script [.sleep 2] }, { body := .script [.sleep 1] }, { body := .script [] }]
  streams := #[{}, {}, {}]

/-- The first two wait at the same time, and the third, begun in the midst of the first, leaves the render
context of the first current. -/
theorem pauses_apart : ∃ s' l,
    ((waitsAndTells "third" 2).run mainEngine).run.RunsAmid Store.Resumes
      ((waitsAndTells "first" 0).begun pauses) (.ok ()) s' ∧
    s'.Shows none [(waitsAndTells "first" 0).frame pauses] ∧
    (Moment.rest { store := pauses }).Later (.rest l) ∧ (Moment.rest l).Apart ∧ l.waiting.length = 2 ∧
    l.store.contexts.toList.map (·.name) = [some "first", some "second"] := by
  have begun : pauses.Shows none [] := ⟨rfl, nofun⟩
  obtain ⟨s', ran⟩ : ∃ s', ((waitsAndTells "third" 2).run mainEngine).run.run
      ((waitsAndTells "first" 0).begun pauses) = (.done (.ok ()), s') := ⟨_, rfl⟩
  have runs : ((waitsAndTells "third" 2).run mainEngine).run.RunsAmid Store.Resumes _ (.ok ()) s' :=
    .of_run ran
  have starts {gives : Progress → Prop} (C : ConductGiving gives) : Obeys C (do
      (waitsAndTells "first" 0).start mainEngine true
      (waitsAndTells "second" 1).start mainEngine true) :=
    (obeys_start (obeys_engine 200) true _).bind fun _ => obeys_start (obeys_engine 200) true _
  have later : (Moment.rest { store := pauses }).Later _ :=
    (Moment.later_runAside starts rfl).trans (Moment.later_settle 2 _)
  obtain ⟨isolated, apart⟩ := contexts_apart 200 (waitsAndTells "third" 2)
  have third := isolated none _ _ ((waitsAndTells "first" 0).shows_begun begun)
  exact ⟨s', _, runs, third.back _ _ runs, later, apart _ ⟨rfl, rfl⟩ rfl _ later, rfl, rfl⟩

end Render

end StreamTemplate
