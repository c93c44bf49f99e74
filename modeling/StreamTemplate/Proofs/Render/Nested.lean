import StreamTemplate.Loop.Run
import StreamTemplate.Proofs.Render.Conduct

/-!
# Renders within renders

A render that runs inside another, or while another one waits, makes a render context of its own and
notes its lines there. So a conduct has to allow for making a render context and for noting lines in
one's own, and then whatever the event loop runs is in it.
-/

namespace StreamTemplate

open Program

/-! ### Nodes -/

universe u v

/-- Whatever a machine does, apart from entering an instruction, obeys a rule. -/
structure Machine.Obeys {ι : Type v} (R : ι) {κ γ : Type} {m : Type → Type u} [Monad m] [Ruled R m]
    (h : Machine κ γ m) : Prop where
  evaluate : ∀ c, StreamTemplate.Obeys R (h.evaluate c)
  execute : ∀ c, StreamTemplate.Obeys R (h.execute c)
  assign : ∀ c, StreamTemplate.Obeys R (h.assign c)
  truth : ∀ v, StreamTemplate.Obeys R (h.truth v)
  cursor : ∀ isAsync v, StreamTemplate.Obeys R (h.cursor isAsync v)
  advance : ∀ c, StreamTemplate.Obeys R (h.advance c)
  setItem : ∀ v, StreamTemplate.Obeys R (h.setItem v)
  dropItem : StreamTemplate.Obeys R h.dropItem
  literal : ∀ text, StreamTemplate.Obeys R (h.literal text)
  output : ∀ escaped v, StreamTemplate.Obeys R (h.output escaped v)
  stuck : ∀ {α : Type}, StreamTemplate.Obeys R (h.stuck : m α)

/-- Whatever a machine does obeys a rule. -/
structure Machine.Follows {ι : Type v} (R : ι) {κ γ : Type} {m : Type → Type u} [Monad m] [Ruled R m]
    (h : Machine κ γ m) : Prop extends h.Obeys R where
  enter : ∀ site tag, StreamTemplate.Obeys R (h.enter site tag)

section

variable {ι : Type v} {R : ι} {κ γ : Type} {m : Type → Type u} [Monad m] [Ruled R m]
  {h : Machine κ γ m}

theorem Obeys.lift [LawfulMonad m] {α : Type} {x : m α} (hx : Obeys R x) :
    Obeys R (ExceptT.lift x : ExceptT Fault m α) :=
  hx.map _

theorem Obeys.ensuring {α : Type} {x : ExceptT Fault m α} {last : m Unit} (hx : Obeys R x)
    (hl : Obeys R last) : Obeys R (ensuring x last) :=
  Obeys.bind (m := m) hx.run fun _ => hl.bind fun _ => obeys_pure _

variable (hh : h.Obeys R)

include hh

theorem obeys_overItems (waits isAsync : Bool) (iter : κ) {loop : γ → ExceptT Fault m Unit}
    (hl : ∀ c, Obeys R (loop c)) : Obeys R (overItems h waits isAsync (h.evaluate iter) loop) := by
  have through (v : Value) : Obeys R (do loop (← h.cursor isAsync v) : ExceptT Fault m Unit) :=
    (hh.cursor isAsync v).bind hl
  unfold overItems
  split
  · exact (hh.evaluate iter).bind fun v => (through v).ensuring hh.dropItem
  · exact ((hh.evaluate iter).bind through).ensuring hh.dropItem

variable [LawfulMonad m]

theorem obeys_holds (test : κ) : Obeys R (holds h test) :=
  (hh.evaluate test).bind fun v => (hh.truth v).lift

theorem obeys_forEach (target : κ) {body : ExceptT Fault m Flow} (hb : Obeys R body) (rounds : Nat)
    (c : γ) : Obeys R (forEach h target body rounds c) := by
  induction rounds generalizing c with
  | zero => exact hh.stuck.lift
  | succ rounds ih =>
    refine (hh.advance c).bind fun next => ?_
    split
    · exact obeys_pure _
    · refine (hh.setItem _).lift.bind fun _ => (hh.assign target).bind fun _ => hb.bind fun flow => ?_
      split
      · exact obeys_pure _
      · exact ih _

theorem obeys_whileTrue {test : ExceptT Fault m Bool} (ht : Obeys R test)
    {body : ExceptT Fault m Flow} (hb : Obeys R body) {again : m Unit} (ha : Obeys R again)
    (rounds : Nat) : Obeys R (whileTrue h test body again rounds) := by
  induction rounds with
  | zero => exact hh.stuck.lift
  | succ rounds ih =>
    refine ht.bind fun more => ?_
    split
    · refine hb.bind fun flow => ?_
      split
      · exact obeys_pure _
      · exact ha.lift.bind fun _ => ih
    · exact obeys_pure _

omit hh

variable (hs : h.Follows R) (waits : Bool) (rounds : Nat)

include hs

mutual

theorem obeys_runNodes : (nodes : List (Node κ)) → Obeys R (runNodes h waits rounds nodes)
  | [] => by
    simp only [runNodes]
    exact obeys_pure _
  | n :: rest => by
    simp only [runNodes]
    refine (hs.enter n.site n.tag?).lift.bind fun _ => (obeys_runNode n).bind fun flow => ?_
    split
    · exact obeys_runNodes rest
    · exact obeys_pure _

theorem obeys_runNode : (n : Node κ) → Obeys R (runNode h waits rounds n)
  | .literal _ text => by
    simp only [runNode]
    exact (hs.literal text).bind fun _ => obeys_pure _
  | .output _ escaped _ code _ => by
    simp only [runNode]
    refine (hs.evaluate code).bind fun v => (hs.output escaped v).bind fun _ => obeys_pure _
  | .simple _ _ code _ => by
    simp only [runNode]
    exact (hs.execute code).bind fun _ => obeys_pure _
  | .control _ isBreak _ => by
    simp only [runNode]
    exact obeys_pure _
  | .choice _ branches _ => by
    simp only [runNode]
    exact obeys_runBranches branches
  | .forLoop _ isAsync target iter body _ => by
    simp only [runNode]
    have loop := obeys_forEach hs.toObeys target (obeys_runNodes body) rounds
    exact (obeys_overItems hs.toObeys waits _ iter loop).bind fun _ => obeys_pure _
  | .whileLoop site test body tag => by
    simp only [runNode]
    have again := hs.enter site (some tag)
    exact (obeys_whileTrue hs.toObeys (obeys_holds hs.toObeys test) (obeys_runNodes body) again rounds).bind
      fun _ => obeys_pure _

theorem obeys_runBranches : (list : List (Branch κ)) → Obeys R (runBranches h waits rounds list)
  | [] => by
    simp only [runBranches]
    exact obeys_pure _
  | .mk none body _ :: _ => by
    simp only [runBranches]
    exact obeys_runNodes body
  | .mk (some test) body _ :: rest => by
    simp only [runBranches]
    refine (obeys_holds hs.toObeys test).bind fun taken => ?_
    split
    · exact obeys_runNodes body
    · exact obeys_runBranches rest

end

end

variable {gives : Progress → Prop} {C : ConductGiving gives}

/-! ### What output tags write -/

theorem Written.obeys_realize (w : Written) : Obeys C w.realize := by
  cases w with
  | chunk v => exact obeys_pure v
  | items iterable conversion =>
    exact (Store.obeys_newGenerator _).bind fun _ => obeys_pure _
  | result awaitable conversion =>
    exact (Store.obeys_newCoroutine _).bind fun _ => obeys_pure _

theorem Output.obeys_realize (o : Output) : Obeys C o.realize := by
  cases o with
  | one w => exact Act.obeys_always w.obeys_realize
  | batch ws =>
    refine (Act.obeys_always (obeys_mapM Written.obeys_realize ws)).bind fun _ => ?_
    exact Act.obeys_work _

theorem obeys_rawChunk (v : Value) : Obeys C (rawChunk v) :=
  (Act.obeys_view _).bind fun o => o.obeys_realize

theorem obeys_escapedChunk (escape : Escape) (v : Value) : Obeys C (escapedChunk escape v) :=
  (Act.obeys_view _).bind fun o => o.obeys_realize

/-! ### The machine and the stage of a render -/

namespace Rendering

theorem obeys_store {α : Type} {x : StateM Store α} (hx : Obeys C x) : Obeys C (store x) :=
  fun _ => ⟨(obeys_ofState hx).bind fun _ => obeys_pure _, fun _ => ⟨rfl, rfl⟩⟩

theorem obeys_modify {f : RenderState → RenderState} (tag : ∀ ρ, (f ρ).tag = ρ.tag)
    (site : ∀ ρ, (f ρ).site = ρ.site) : Obeys C (modify f : Rendering Unit) :=
  fun ρ => ⟨obeys_pure _, tag ρ, site ρ⟩

theorem obeys_machine {e : Engine} (he : e.Obeys C) (r : Render) (context : Nat) :
    (machine e r context).Obeys C where
  evaluate c := c.obeys_eval he
  execute c := c.obeys_exec he
  assign c := c.obeys_exec he
  truth _ := obeys_store (C.unseen fun _ => ⟨rfl, rfl, rfl, rfl, rfl, rfl⟩)
  cursor isAsync v := Eval.obeys_run (obeys_iteration isAsync v)
  advance c := Eval.obeys_run (c.obeys_advance he)
  setItem _ := obeys_modify (fun _ => rfl) fun _ => rfl
  dropItem := obeys_modify (fun _ => rfl) fun _ => rfl
  literal _ := Eval.obeys_act (obeys_pushChunk r.stream _)
  output escaped v := by
    refine Eval.obeys_act ?_
    cases escaped with
    | true => exact (obeys_escapedChunk _ v).bind fun _ => obeys_pushChunk r.stream _
    | false => exact (obeys_rawChunk v).bind fun _ => obeys_pushChunk r.stream _
  stuck := fun _ => ⟨C.run_stuck, trivial⟩

theorem obeys_close (r : Render) (context : Nat) (before : Option Nat) (last : Option Fault) :
    Obeys C ((stage r context before).close last) := by
  refine obeys_store (Obeys.map (Obeys.run ?_) _)
  exact Store.obeys_onStream r.stream (ChunkStream.obeys_close (Store.obeys_surroundings r.stream) last)

/-- What a render does to its end, at which the render context from before is current again. -/
def Leaves (C : ConductGiving gives) (context : Nat) (before : Option Nat) {α : Type}
    (x : Rendering α) : Prop :=
  ∀ (β : Type) (last : α × RenderState → β) ρ,
    C.leaves context before (x.run ρ >>= fun a => pure (last a))

theorem Leaves.bind {α β : Type} {context : Nat} {before : Option Nat} {x : Rendering α}
    {f : α → Rendering β} (hx : Obeys C x) (hf : ∀ a, Leaves C context before (f a)) :
    Leaves C context before (x >>= f) := by
  intro β last ρ
  rw [StateT.run_bind, bind_assoc]
  exact C.leaves_within (C.within_run (hx ρ).1) fun a => hf a.1 β last a.2

theorem leaves_leaveContext {α : Type} (r : Render) (context : Nat) (before : Option Nat)
    {x : Rendering α} (hx : Obeys C x) :
    Leaves C context before (do (stage r context before).leaveContext; x) :=
  fun _ last ρ => C.leaves_back (C.run_bind (hx ρ).1 fun a => C.run_done (last a))

theorem leaves_endWithFault (r : Render) (context : Nat) (before : Option Nat) (waits : Bool)
    (fault : Fault) :
    Leaves C context before (endWithFault (stage r context before) waits fault) := by
  have close := obeys_close (C := C) r context before
  have leave {α : Type} (a : α) : Leaves C context before (do
      (stage r context before).leaveContext
      return a) :=
    leaves_leaveContext r context before (obeys_pure a)
  have explain : Obeys C ((stage r context before).explain fault) :=
    .bind (fun _ => ⟨obeys_pure _, rfl, rfl⟩) fun _ => obeys_store (obeys_get.bind fun _ => obeys_pure _)
  have place : Obeys C (stage r context before).location :=
    obeys_store (obeys_get.bind fun _ => obeys_pure _)
  unfold endWithFault
  split
  · refine .bind explain fun told => ?_
    split
    · exact .bind (close _) fun _ => leave _
    · exact leave _
  · dsimp only
    split
    · exact .bind place fun _ => .bind (close _) fun _ => leave _
    · exact leave _

end Rendering

/-! ### Renders -/

/-- A conduct, and the render context of the render that is in it. -/
structure Placed (gives : Progress → Prop) where
  conduct : ConductGiving gives
  context : Nat

/-- A render may do in its render context what its conduct allows there. -/
instance {p : Placed gives} : Ruled p (StateT RenderState (Process Store)) where
  holds x := ∀ ρ, p.conduct.within p.context (x.run ρ)
  pure _ _ := p.conduct.within_run (p.conduct.run_done _)
  bind hx hf ρ := p.conduct.within_bind (hx ρ) fun r => hf r.1 r.2

/-- What is in a conduct is in it wherever a render is. -/
theorem Obeys.placed {α : Type} {x : Rendering α} (hx : Obeys C x) (context : Nat) :
    Obeys (Placed.mk C context) x :=
  fun ρ => C.within_run (hx ρ).1

theorem Obeys.placed_run {α : Type} {x : ExceptT Fault Rendering α} (hx : Obeys C x) (context : Nat) :
    Obeys (Placed.mk C context) x :=
  Obeys.placed (x := x.run) hx context

theorem Machine.Obeys.placed {κ γ : Type} {h : Machine κ γ Rendering} (hh : h.Obeys C)
    (context : Nat) : h.Obeys (Placed.mk C context) where
  evaluate c := (hh.evaluate c).placed_run context
  execute c := (hh.execute c).placed_run context
  assign c := (hh.assign c).placed_run context
  truth v := (hh.truth v).placed context
  cursor isAsync v := (hh.cursor isAsync v).placed_run context
  advance c := (hh.advance c).placed_run context
  setItem v := (hh.setItem v).placed context
  dropItem := hh.dropItem.placed context
  literal text := (hh.literal text).placed_run context
  output escaped v := (hh.output escaped v).placed_run context
  stuck := hh.stuck.placed context

/-- Entering an instruction shows in the render context. -/
theorem Rendering.follows_machine {e : Engine} (he : e.Obeys C) (r : Render) (context : Nat) :
    (machine e r context).Follows (Placed.mk C context) where
  toObeys := (obeys_machine he r context).placed context
  enter site tag := by
    have noted : Obeys (Placed.mk C context) (modify fun ρ => { ρ with tag, site } : Rendering Unit) :=
      fun _ => C.within_run (C.run_done _)
    exact noted.bind fun _ _ => C.within_bind (C.setLine context site.line)
      fun _ => C.within_run (C.run_done _)

/-- Ends a body whose nodes were left so. -/
def concludeBody {m : Type → Type u} [Monad m] (s : Stage m) (waits : Bool) :
    Except Fault Flow → m (Except Fault Unit)
  | .ok _ => do
    s.leaveContext
    s.close none
    return .ok ()
  | .error fault => endWithFault s waits (leavingBody waits fault)

theorem Rendering.leaves_concludeBody (r : Render) (context : Nat) (before : Option Nat) (waits : Bool)
    (left : Except Fault Flow) :
    Leaves C context before (concludeBody (stage r context before) waits left) := by
  cases left with
  | ok flow =>
    refine leaves_leaveContext r context before ?_
    exact (obeys_close r context before none).bind fun _ => obeys_pure _
  | error fault => exact leaves_endWithFault r context before waits _

/-- A render makes a render context, enters it, runs its nodes there, and ends. -/
theorem Render.run_eq (e : Engine) (r : Render) : (r.run e).run = (do
    let context ← .ofState (Store.newContext r.template.context)
    let s ← .ofState get
    .ofState (Store.setContext (some context))
    let left ← runNodes (Rendering.machine e r context) r.template.compiled.isAsync patience
      r.template.compiled.body { scope := r.scope }
    let ended ← concludeBody (Rendering.stage r context s.context) r.template.compiled.isAsync left.1 left.2
    return ended.1 : Process Store (Except Fault Unit)) := by
  simp only [← bind_assoc]
  rfl

theorem Render.obeys_run {e : Engine} (he : e.Obeys C) (r : Render) : Obeys C (r.run e) := by
  show C.run (r.run e).run
  rw [r.run_eq]
  refine C.newContext r.template.context (f := fun context before => do
    let left ← runNodes (Rendering.machine e r context) r.template.compiled.isAsync patience
      r.template.compiled.body { scope := r.scope }
    let ended ← concludeBody (Rendering.stage r context before) r.template.compiled.isAsync left.1 left.2
    return ended.1) fun context before => ?_
  have nodes := obeys_runNodes (Rendering.follows_machine he r context) r.template.compiled.isAsync
    patience r.template.compiled.body
  refine C.leaves_within (nodes { scope := r.scope }) fun left => ?_
  exact Rendering.leaves_concludeBody r context before _ left.1 _ Prod.fst left.2

theorem obeys_newStream (opening : List Recipe) : Obeys C (newStream opening) := by
  refine Act.obeys_get.bind fun s => .bind (Act.obeys_setStreams (·.push {})) fun _ => ?_
  refine (obeys_buildAll opening).bind fun vs => ?_
  exact (obeys_forM (obeys_pushChunk _) vs).bind fun _ => obeys_pure _

theorem obeys_spawnBody (coroutine : Nat) : Obeys C (spawnBody coroutine) :=
  (Store.obeys_newTask coroutine none).bind fun _ => C.unseen fun _ => ⟨rfl, rfl, rfl, rfl, rfl, rfl⟩

theorem Render.obeys_start {e : Engine} (he : e.Obeys C) (hasLoop : Bool) (r : Render) :
    Obeys C (r.start e hasLoop) := by
  have scheduled : Obeys C (Run.act <| Act.always <|
      if r.template.options.enableAsync then do
        let coroutine ← Store.newCoroutine (.render r)
        if r.template.options.defer then Store.enqueue (.spawn (← get).context coroutine)
          else spawnBody coroutine
      else do Store.enqueue (.render (← get).context r)) := by
    refine Run.obeys_act (Act.obeys_always ?_)
    split
    · refine (Store.obeys_newCoroutine _).bind fun coroutine => ?_
      split
      · exact obeys_get.bind fun s => Store.obeys_enqueue _
      · exact obeys_spawnBody coroutine
    · exact obeys_get.bind fun s => Store.obeys_enqueue _
  unfold Render.start
  dsimp only
  split
  · split
    · exact (obeys_throw _).bind fun _ => scheduled
    · exact scheduled
  · exact r.obeys_run he

theorem Template.obeys_startWith {e : Engine} (he : e.Obeys C) (hasLoop : Bool) (t : Template)
    (data : List (String × Value)) : Obeys C (t.startWith e hasLoop data) := by
  refine Obeys.bind (Run.obeys_act ?_) fun r =>
    (r.obeys_start he hasLoop).bind fun _ => obeys_pure _
  exact (obeys_newStream _).bind fun _ => obeys_pure _

/-! ### Tasks -/

theorem Store.obeys_cancelWithin (depth id : Nat) : Obeys C (cancelWithin depth id) := by
  induction depth generalizing id with
  | zero => exact obeys_pure _
  | succ depth ih =>
    have mark (passedOn : Bool) : Obeys C (do
        unless passedOn do modifyTask id fun t => { t with mustCancel := true }
        return true : StateM Store Bool) := by
      cases passedOn with
      | true => exact (obeys_pure _).bind fun _ => obeys_pure _
      | false =>
        refine Obeys.bind (obeys_modifyTask id ?_ ?_) fun _ => obeys_pure _
        · exact fun _ => rfl
        · exact fun _ => rfl
    refine obeys_get.bind fun s => ?_
    dsimp only
    split
    · exact obeys_pure _
    · split
      · exact (obeys_complete id C.cancels).bind fun _ => obeys_pure _
      · split
        · exact (ih _).bind mark
        · exact (obeys_pure _).bind mark

namespace EventLoop

theorem obeys_finishTask {C : Conduct} (id : Nat) (task : TaskState) (r : Except Fault Value) :
    Obeys C (finishTask id task r) := by
  unfold finishTask
  dsimp only
  split
  · exact .bind (C.unseen fun _ => ⟨rfl, rfl, rfl, rfl, rfl, rfl⟩) fun _ => Store.obeys_complete id trivial
  · exact Store.obeys_complete id trivial

theorem obeys_suspendTask (id : Nat) (w : Wait) : Obeys C (suspendTask id w) := by
  cases w with
  | turn => exact Store.obeys_enqueue _
  | future future =>
    have cancelled : Obeys C (Store.cancel future) :=
      obeys_get.bind fun s => Store.obeys_cancelWithin _ future
    refine (Store.obeys_listen future _).bind fun _ => ?_
    refine .bind (Store.obeys_modifyTask id ?_ ?_) fun _ => obeys_get.bind fun s => ?_
    · exact fun _ => rfl
    · exact fun _ => rfl
    · split
      · refine cancelled.bind fun _ => ?_
        split
        · exact Store.obeys_modifyTask id (fun _ => rfl) fun _ => rfl
        · exact obeys_pure _
      · exact obeys_pure _

variable {l : EventLoop} {t t' : Nat} {τ : TaskState} {k : Continuation} {s : Store}
  {halted : Halted Store (Except Fault Value)}

/-- What is done with a task that has run is in every conduct. -/
theorem store_concludeTask (l : EventLoop) (t : Nat) (τ : TaskState)
    (halted : Halted Store (Except Fault Value)) (s : Store) :
    ∃ x : StateM Store Unit, (∀ C : Conduct, Obeys C x) ∧
      (l.concludeTask t τ (halted, s)).store = (x.run (leaveTask t s)).2 := by
  cases halted with
  | done r => exact ⟨_, fun C => obeys_finishTask t _ r, rfl⟩
  | stuck => exact ⟨pure (), fun C => obeys_pure (), rfl⟩
  | waiting w k => exact ⟨_, fun C => obeys_suspendTask t w, rfl⟩

/-- When a task has run the others wait as before, and it waits itself if that is where it has come to. -/
theorem mem_concludeTask (waits : (t', k) ∈ (l.concludeTask t τ (halted, s)).waiting) :
    (t', k) ∈ l.waiting ∧ t' ≠ t ∨ t' = t ∧ ∃ w, halted = .waiting w k := by
  have others (waits : (t', k) ∈ l.waiting.filter (·.1 ≠ t)) : (t', k) ∈ l.waiting ∧ t' ≠ t := by
    obtain ⟨mem, other⟩ := List.mem_filter.mp waits
    exact ⟨mem, of_decide_eq_true other⟩
  cases halted with
  | done | stuck => exact .inl (others waits)
  | waiting w k' =>
    rcases List.mem_cons.mp waits with same | waits
    · cases same
      exact .inr ⟨rfl, w, rfl⟩
    · exact .inl (others waits)

end EventLoop

/-! ### Whatever the event loop runs -/

theorem Body.obeys_run {e : Engine} (he : e.Obeys C) (body : Body) : Obeys C (body.run e) := by
  cases body with
  | script steps =>
    refine (obeys_runScript steps).bind fun halt => ?_
    split <;> exact obeys_pure _
  | convert awaitable conversion =>
    exact (obeys_awaitValue he awaitable).bind fun v => Run.obeys_act (Act.obeys_view _)
  | await awaitable => exact obeys_awaitValue he awaitable
  | nextItem iterator =>
    refine (obeys_nextOrEnd he iterator).bind fun next => ?_
    split <;> exact obeys_pure _
  | render r => exact (r.obeys_run he).bind fun _ => obeys_pure _
  | call stream request => exact obeys_consume stream request
  | renderText t data =>
    exact (t.obeys_startWith he true data).bind fun stream => obeys_readText stream _
  | collect iterable =>
    refine (obeys_asyncIterator iterable).bind fun iterator => ?_
    exact (obeys_collectItems he iterator).bind fun _ => Run.obeys_work _

/-- Code that is nested to any depth is in every conduct. -/
theorem obeys_engine (depth : Nat) : (engine depth).Obeys C := by
  induction depth with
  | zero => exact ⟨fun _ => Run.obeys_stuck, fun _ => Run.obeys_stuck⟩
  | succ depth ih => exact ⟨fun body => body.obeys_run ih, fun v => obeys_nextItem ih v⟩

end StreamTemplate
