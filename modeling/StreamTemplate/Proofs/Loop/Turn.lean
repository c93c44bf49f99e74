import StreamTemplate.Proofs.Loop.Pull

/-!
# A turn of a pull

A consumer's call is a task whose coroutine pulls. When the loop resumes the task, a stretch of the
pull runs and then the task has ended, waits for a future of its own, or is stuck; nothing happens to
other calls.
-/

namespace StreamTemplate.Pull

/-- A consumer's call: its task, the coroutine of the task, and the size that it asks for. -/
structure Call where
  task : Nat
  coroutine : Nat
  size : Option Int

namespace Call

/-- The task and the coroutine of a call are there. -/
structure Placed (id : Nat) (a : Call) (s : Store) : Prop where
  task : ∃ τ, s.task? a.task = some τ ∧ τ.coroutine = a.coroutine
  coroutine : ∃ k, s.coroutines[a.coroutine]? = some k ∧ k.body = .call id (.pull a.size)

/-- A call waits for nothing: it has not begun, is over or is stuck. -/
structure Away (a : Call) (l : EventLoop) : Prop where
  lookup : l.waiting.lookup a.task = none
  coroutine : ∀ f, l.store.coroutineState a.coroutine ≠ .suspended f
  waiting : ∀ τ, l.store.task? a.task = some τ → τ.waiting = none

/-- A call waits for the future `w`, with so many rounds to go. -/
structure Paused (id : Nat) (a : Call) (w rounds : Nat) (l : EventLoop) : Prop where
  lookup : ∃ outer,
    l.waiting.lookup a.task = some (resumption id a.size a.coroutine outer w rounds)
  coroutine : l.store.coroutineState a.coroutine = .suspended (some w)

/-- A call waits for the future `w` and will be told. -/
structure Waits (id : Nat) (a : Call) (w rounds : Nat) (l : EventLoop) : Prop
    extends Paused id a w rounds l where
  pending : l.store.isPending a.task
  waiting : ∀ τ, l.store.task? a.task = some τ → τ.waiting = some w
  told : l.store.Told (.task a.task) w
  plain : l.store.task? w = none

variable {id w rounds : Nat} {a : Call} {l : EventLoop}

/-- What is ready next is nothing to a call that does not wait. -/
theorem Away.ready (h : Away a l) (ready : Queue Ready) :
    Away a { l with store := { l.store with ready } } :=
  ⟨h.lookup, h.coroutine, h.waiting⟩

theorem Paused.ready (h : Paused id a w rounds l) (ready : Queue Ready) :
    Paused id a w rounds { l with store := { l.store with ready } } :=
  ⟨h.lookup, h.coroutine⟩

theorem Away.not_paused (h : Away a l) : ¬ Paused id a w rounds l := by
  intro paused
  obtain ⟨outer, lookup⟩ := paused.lookup
  exact nomatch h.lookup.symm.trans lookup

end Call

/-- From `s` to `s'` nothing but the task of a call and the streams may change, and no task comes into
being. -/
structure Tended (a : Call) (s s' : Store) : Prop where
  heap : s'.heap = s.heap
  spares : s.Spares (fun _ => True) (· ≠ a.task) (fun _ => True) s'
  begun : s.begun s' = []
  leaves : s.Leaves s'

/-- The outcome of a task that is not to be cancelled. -/
def outcomeOf : Except Fault Value → Progress
  | .ok v => .finished v
  | .error fault => if fault.isA .cancelled then .cancelled else .failed fault

/-- How a call is left behind. -/
def Outcome.Concludes (id : Nat) (a : Call) (l : EventLoop) : Outcome → Prop
  | .ended r => l.store.progress a.task = outcomeOf r ∧ a.Away l
  | .stuck => l.store.isPending a.task ∧ a.Away l
  | .waits w rounds => a.Waits id w rounds l

/-- A turn of a call. -/
structure Turn (id : Nat) (a : Call) (st : ChunkStream) (l : EventLoop) (out : Outcome)
    (st' : ChunkStream) (l' : EventLoop) : Prop where
  passes : ∃ s s', Tended a l.store s ∧ Stretch id a.size a.coroutine st s out st' s' ∧
    Tended a s' l'.store
  stream : l'.store.streams[id]? = some st'
  concludes : out.Concludes id a l'
  others : ∀ t, t ≠ a.task → l'.waiting.lookup t = l.waiting.lookup t
  waiting : ∀ p ∈ l'.waiting, p.1 = a.task ∨ p ∈ l.waiting

section

variable {id : Nat} {a : Call} {s s' s'' : Store} {l l' : EventLoop} {st st' : ChunkStream}

namespace Tended

theorem trans (h : Tended a s s') (h' : Tended a s' s'') : Tended a s s'' where
  heap := h'.heap.trans h.heap
  spares := h.spares.trans h'.spares
  begun := by rw [h.spares.begun_trans h'.spares, h.begun, h'.begun, List.nil_append]
  leaves := h.leaves.trans h'.leaves

theorem modifyTask {g : TaskState → TaskState} (s : Store)
    (coroutine : ∀ τ, (g τ).coroutine = τ.coroutine) :
    Tended a s ((Store.modifyTask a.task g).run s).2 :=
  ⟨rfl, Store.spares_modifyTask s coroutine fun h => h rfl, Store.begun_of_size Array.size_modify,
    .of_same rfl rfl⟩

theorem of_same (heap : s'.heap = s.heap) (futures : s'.futures = s.futures)
    (ready : s'.ready = s.ready) (coroutines : s'.coroutines = s.coroutines)
    (generators : s'.generators = s.generators) : Tended a s s' :=
  ⟨heap, .of_same futures ready coroutines, Store.begun_of_size (congrArg _ futures),
    .of_same generators ready⟩

end Tended

theorem task?_modifyTask (t : Nat) (g : TaskState → TaskState) (s : Store) :
    ((Store.modifyTask t g).run s).2.task? t = (s.task? t).map g := by
  show ((s.futures.modify t _)[t]?).bind _ = _
  rw [Array.getElem?_modify, if_pos rfl]
  unfold Store.task?
  cases s.futures[t]? <;> rfl

theorem task?_modifyTask_ne {t w : Nat} (ne : t ≠ w) (g : TaskState → TaskState) (s : Store) :
    ((Store.modifyTask t g).run s).2.task? w = s.task? w := by
  show ((s.futures.modify t _)[w]?).bind _ = _
  rw [Array.getElem?_modify, if_neg ne]
  rfl

theorem lt_of_task? {t : Nat} {τ : TaskState} (task : s.task? t = some τ) :
    t < s.futures.size := by
  refine Nat.lt_of_not_le fun ge => ?_
  unfold Store.task? at task
  rw [Array.getElem?_eq_none ge] at task
  cases task

theorem progress_modifyTask (t w : Nat) (g : TaskState → TaskState) (s : Store) :
    ((Store.modifyTask t g).run s).2.progress w = s.progress w :=
  Store.progress_modifyFuture (g := fun f => { f with task := f.task.map g }) (fun _ => rfl) t w s

theorem lookup_filter_ne {t u : Nat} (ne : u ≠ t) (waiting : List (Nat × Continuation)) :
    (waiting.filter (·.1 ≠ t)).lookup u = waiting.lookup u := by
  induction waiting with
  | nil => rfl
  | cons p waiting ih =>
    obtain ⟨v, k⟩ := p
    by_cases hv : v = t
    · subst hv
      have other : (u == v) = false := by simpa using ne
      rw [List.filter_cons_of_neg (by simp), ih, List.lookup_cons, other]
    · rw [List.filter_cons_of_pos (by simpa using hv), List.lookup_cons, List.lookup_cons, ih]

theorem lookup_filter_self (t : Nat) (waiting : List (Nat × Continuation)) :
    (waiting.filter (·.1 ≠ t)).lookup t = none := by
  refine List.lookup_eq_none_iff.mpr fun p hp => ?_
  have ne : p.1 ≠ t := by simpa using (List.mem_filter.mp hp).2
  simpa using ne.symm

/-! ### Cancelling a task -/

/-- What cancelling a task does that waits for nothing or for a plain future. -/
inductive Cancels (t : Nat) (s : Store) : Store → Prop where
  | past : Cancels t s s
  | marked : Cancels t s ((Store.modifyTask t fun τ => { τ with mustCancel := true }).run s).2
  | passed {w} (pending : s.isPending w) (plain : s.task? w = none) :
      Cancels t s (s.completed w .cancelled)

theorem run_cancelWithin_over {d t : Nat} (done : s.isPending t = false) :
    (Store.cancelWithin (d + 1) t).run s = (false, s) := by
  rw [Store.cancelWithin]
  simp only [StateT.run_bind, StateT.run_get, pure_bind, done]
  rfl

theorem run_cancelWithin_plain {d w : Nat} (pending : s.isPending w) (plain : s.task? w = none) :
    (Store.cancelWithin (d + 1) w).run s = (true, s.completed w .cancelled) := by
  unfold Store.task? at plain
  rw [Store.cancelWithin]
  simp only [StateT.run_bind, StateT.run_get, pure_bind, pending, plain]
  rfl

theorem cancels {t : Nat} {τ : TaskState} (task : s.task? t = some τ)
    (plain : ∀ w, τ.waiting = some w → s.task? w = none) :
    Cancels t s ((Store.cancel t).run s).2 := by
  obtain ⟨d, size⟩ := Nat.exists_eq_succ_of_ne_zero (Nat.ne_zero_of_lt (lt_of_task? task))
  have run : (Store.cancel t).run s = (Store.cancelWithin (d + 1 + 1) t).run s := by
    show (Store.cancelWithin (s.futures.size + 1) t).run s = _
    rw [size]
  rw [run]
  cases pending : s.isPending t with
  | false =>
    rw [run_cancelWithin_over pending]
    exact .past
  | true =>
    unfold Store.task? at task
    rw [Store.cancelWithin]
    simp only [StateT.run_bind, StateT.run_get, pure_bind, pending, task]
    cases waiting : τ.waiting with
    | none => exact .marked
    | some w =>
      simp only [Bool.not_true, Bool.false_eq_true, if_false, StateT.run_bind]
      cases awaits : s.isPending w with
      | false =>
        rw [run_cancelWithin_over awaits]
        exact .marked
      | true =>
        rw [run_cancelWithin_plain awaits (plain w waiting)]
        exact .passed awaits (plain w waiting)

theorem Cancels.grows {t : Nat} (h : Cancels t s s') : s.Grows s' := by
  cases h with
  | past => exact .refl s
  | marked => exact Store.spares_modifyTask s (fun _ => rfl) not_false
  | passed pending => exact Store.spares_completed pending nofun not_false

/-! ### Resuming a task -/

theorem stepTask_eq {t : Nat} {τ : TaskState} (thrown : Option Fault)
    (pending : l.store.isPending t) (task : l.store.task? t = some τ) :
    l.stepTask t thrown = l.concludeTask t τ
      ((l.process t τ (EventLoop.thrownInto τ thrown)).run (EventLoop.enterTask t τ l.store)) := by
  unfold Store.task? at task
  unfold EventLoop.stepTask
  rw [pending, task]
  rfl

/-- A task that is over is not resumed. -/
theorem stepTask_past {t : Nat} (thrown : Option Fault) (past : l.store.isPending t = false) :
    l.stepTask t thrown = l := by
  unfold EventLoop.stepTask
  rw [past]
  rfl

theorem stepTask_cases (l : EventLoop) (t : Nat) (thrown : Option Fault) :
    l.stepTask t thrown = l ∨ ∃ τ, l.store.task? t = some τ ∧ l.stepTask t thrown = l.concludeTask t τ
      ((l.process t τ (EventLoop.thrownInto τ thrown)).run (EventLoop.enterTask t τ l.store)) := by
  cases pending : l.store.isPending t with
  | false => exact .inl (stepTask_past thrown pending)
  | true =>
    cases task : l.store.task? t with
    | none =>
      refine .inl ?_
      unfold Store.task? at task
      unfold EventLoop.stepTask
      rw [pending, task]
      rfl
    | some τ => exact .inr ⟨τ, rfl, stepTask_eq thrown pending task⟩

/-- A task that waits goes on as it waited. -/
theorem process_of_some {t : Nat} {k : Option Fault → Process Store (Except Fault Value)}
    (lookup : l.waiting.lookup t = some k) (τ : TaskState) (thrown : Option Fault) :
    l.process t τ thrown = k thrown := by
  unfold EventLoop.process
  rw [lookup]

/-- A task that does not wait begins. -/
theorem process_of_none {t c : Nat} {τ : TaskState} (lookup : l.waiting.lookup t = none)
    (coroutine : τ.coroutine = c) (thrown : Option Fault) :
    l.process t τ thrown = (taskMain mainEngine c thrown).run := by
  unfold EventLoop.process
  rw [lookup, coroutine]

/-- A task goes on as it waited, or it begins. -/
theorem process_cases (l : EventLoop) (t : Nat) (τ : TaskState) (thrown : Option Fault) :
    (∃ k, (t, k) ∈ l.waiting ∧ l.process t τ thrown = k thrown) ∨
      l.process t τ thrown = (taskMain mainEngine τ.coroutine thrown).run := by
  cases found : l.waiting.lookup t with
  | none => exact .inr (process_of_none found rfl thrown)
  | some k =>
    obtain ⟨before, after, waiting, -⟩ := List.lookup_eq_some_iff.mp found
    exact .inl ⟨k, by simp [waiting], process_of_some found τ thrown⟩

theorem tended_enterTask (τ : TaskState) (s : Store) :
    Tended a s (EventLoop.enterTask a.task τ s) := by
  have reset : Tended a s ((Store.modifyTask a.task fun τ =>
    { τ with mustCancel := false, waiting := none }).run s).2 := .modifyTask s fun _ => rfl
  exact reset.trans (.of_same rfl rfl rfl rfl rfl)

theorem tended_leaveTask (s : Store) : Tended a s (EventLoop.leaveTask a.task s) := by
  have left : Tended a s { s with context := none } := .of_same rfl rfl rfl rfl rfl
  exact left.trans (.modifyTask _ fun _ => rfl)

theorem tended_completed {p : Progress} (pending : s.isPending a.task) (done : p ≠ .pending) :
    Tended a s (s.completed a.task p) :=
  ⟨Store.heap_completed .., Store.spares_completed pending done fun h => h rfl,
    Store.begun_of_size (Store.size_completed ..), .completed ..⟩

theorem outcomeOf_ne_pending (r : Except Fault Value) : outcomeOf r ≠ .pending := by
  intro h
  unfold outcomeOf at h
  split at h
  · cases h
  · split at h <;> cases h

theorem outcomeOf_error_ne_finished (e : Fault) (v : Value) : outcomeOf (.error e) ≠ .finished v := by
  unfold outcomeOf
  dsimp only
  split <;> nofun

/-- A task that is not to be cancelled is finished with what it delivers. -/
theorem run_finishTask {t : Nat} {τ : TaskState} (go : τ.mustCancel = false)
    (r : Except Fault Value) (s : Store) :
    ∃ reports, ((EventLoop.finishTask t τ r).run s).2 =
      { s with reports }.completed t (outcomeOf r) := by
  unfold EventLoop.finishTask
  rw [go]
  cases τ.report with
  | none =>
    refine ⟨s.reports, ?_⟩
    cases r <;> rfl
  | some name =>
    refine ⟨(name, r) :: s.reports, ?_⟩
    cases r <;> rfl

/-- A task that is not to be cancelled listens to the future that it waits for. -/
theorem run_suspendTask {t w : Nat} {τ : TaskState} {s : Store} (task : s.task? t = some τ)
    (go : τ.mustCancel = false) :
    ((EventLoop.suspendTask t (.future w)).run s).2 =
      ((Store.modifyTask t fun τ => { τ with waiting := some w }).run
        ((Store.listen w (.task t)).run s).2).2 := by
  let s' := ((Store.modifyTask t fun τ => { τ with waiting := some w }).run
    ((Store.listen w (.task t)).run s).2).2
  have lt : t < s.futures.size := lt_of_task? task
  have heard : s.Spares (fun _ => True) (fun _ => True) (fun _ => True)
    ((Store.listen w (.task t)).run s).2 := Store.spares_listen ..
  have stays : (s'.task? t).any (fun τ => τ.mustCancel) = false := by
    rw [task?_modifyTask, heard.task? lt trivial, task]
    exact go
  let hurry : StateM Store Unit := do
    if ← Store.cancel w then Store.modifyTask t fun t => { t with mustCancel := false }
  have run : ((EventLoop.suspendTask t (.future w)).run s).2 =
      (StateT.run (if (s'.task? t).any (fun τ => τ.mustCancel) then hurry else pure ⟨⟩) s').2 := rfl
  rw [run, stays]
  rfl

theorem isPending_congr {w : Nat} (h : s'.progress w = s.progress w) (pending : s.isPending w) :
    s'.isPending w := by
  rw [Store.isPending_iff] at pending ⊢
  rw [h, pending]

/-- How the task of a call stands when it has run, before it is finished or waits. -/
theorem task?_left {τ : TaskState} {out : Outcome} (pending : l.store.isPending a.task)
    (task : l.store.task? a.task = some τ)
    (h : Stretch id a.size a.coroutine st (EventLoop.enterTask a.task τ l.store) out st' s) :
    (EventLoop.leaveTask a.task s).isPending a.task ∧
      ∃ τ', (EventLoop.leaveTask a.task s).task? a.task = some τ' ∧ τ'.mustCancel = false ∧
        τ'.waiting = none := by
  have entered : (EventLoop.enterTask a.task τ l.store).task? a.task =
      some { τ with mustCancel := false, waiting := none } := by
    refine (task?_modifyTask ..).trans ?_
    rw [task]
    rfl
  have begun : (EventLoop.enterTask a.task τ l.store).isPending a.task :=
    isPending_congr (progress_modifyTask a.task a.task _ l.store) pending
  obtain ⟨-, spares⟩ := h.spares
  have lt := lt_of_task? entered
  constructor
  · exact isPending_congr (progress_modifyTask a.task a.task _ _) (spares.still_pending begun trivial)
  · have left : (EventLoop.leaveTask a.task s).task? a.task =
        some { τ with mustCancel := false, waiting := none, context := s.context } := by
      refine (task?_modifyTask ..).trans ?_
      show Option.map _ (s.task? a.task) = _
      rw [spares.task? lt trivial, entered]
      rfl
    exact ⟨_, left, rfl, rfl⟩

/-- A task that has ended is finished. -/
theorem concludes_ended (id : Nat) {τ : TaskState} (pending : s.isPending a.task)
    (task : s.task? a.task = some τ) (go : τ.mustCancel = false) (waiting : τ.waiting = none)
    (left : ∀ f, s.coroutineState a.coroutine ≠ .suspended f) (r : Except Fault Value)
    (store : l'.store = ((EventLoop.finishTask a.task τ r).run s).2)
    (lookup : l'.waiting.lookup a.task = none) :
    Tended a s l'.store ∧ l'.store.streams = s.streams ∧ (Outcome.ended r).Concludes id a l' := by
  obtain ⟨reports, finished⟩ := run_finishTask (t := a.task) go r s
  rw [finished] at store
  have reported : Tended a s { s with reports } := .of_same rfl rfl rfl rfl rfl
  have pending' : ({ s with reports } : Store).isPending a.task := pending
  have done : l'.store.progress a.task = outcomeOf r := by
    rw [store]
    exact Store.progress_completed (s := { s with reports }) (lt_of_task? task) _
  have away : a.Away l' := by
    refine ⟨lookup, fun f => ?_, fun τ' task' => ?_⟩
    · rw [store]
      unfold Store.coroutineState
      rw [Store.coroutines_completed]
      exact left f
    · rw [store, Store.task?_completed] at task'
      cases task.symm.trans task'
      exact waiting
  refine ⟨?_, ?_, done, away⟩
  · rw [store]
    exact reported.trans (tended_completed pending' (outcomeOf_ne_pending r))
  · rw [store, Store.streams_completed]

/-- A task that waits listens to the future that it waits for. -/
theorem concludes_waits (id : Nat) {τ : TaskState} {w rounds : Nat} (pending : s.isPending a.task)
    (task : s.task? a.task = some τ) (go : τ.mustCancel = false)
    (suspended : s.coroutineState a.coroutine = .suspended (some w)) (waits : s.isPending w)
    (plain : s.task? w = none)
    (store : l'.store = ((EventLoop.suspendTask a.task (.future w)).run s).2)
    (lookup : ∃ outer,
      l'.waiting.lookup a.task = some (resumption id a.size a.coroutine outer w rounds)) :
    Tended a s l'.store ∧ l'.store.streams = s.streams ∧
      (Outcome.waits w rounds).Concludes id a l' := by
  rw [run_suspendTask task go] at store
  let s' := ((Store.listen w (.task a.task)).run s).2
  have heard : Tended a s s' := ⟨Store.heap_listen .., Store.spares_listen ..,
    Store.begun_of_size (Store.size_listen ..), .listen ..⟩
  have noted : Tended a s' l'.store := by
    rw [store]
    exact .modifyTask _ fun _ => rfl
  have tended := heard.trans noted
  have streams : l'.store.streams = s.streams := by
    rw [store]
    exact Store.streams_listen w (.task a.task) s
  have coroutines : l'.store.coroutines = s.coroutines := by
    rw [store]
    exact Store.coroutines_listen w (.task a.task) s
  have lt := lt_of_task? task
  have kept : s.Spares (fun _ => True) (fun _ => True) (fun _ => True) s' := Store.spares_listen ..
  refine ⟨tended, streams, ⟨lookup, ?_⟩, ?_, ?_, ?_, ?_⟩
  · rw [Store.coroutineState, coroutines]
    exact suspended
  · rw [store]
    exact isPending_congr (progress_modifyTask ..) (kept.still_pending pending trivial)
  · intro τ' task'
    rw [store, task?_modifyTask, kept.task? lt trivial, task] at task'
    cases task'
    rfl
  · exact noted.spares.told _ _ trivial (Store.told_listen _ (Store.lt_size_of_isPending waits))
  · have none := tended.spares.task?_coroutine (Store.lt_size_of_isPending waits)
    rw [plain] at none
    exact Option.map_eq_none_iff.mp none

/-- A stretch of a pull makes a turn of its task. -/
theorem turn_of_comes {τ : TaskState} {out : Outcome} (thrown : Option Fault)
    (pending : l.store.isPending a.task) (task : l.store.task? a.task = some τ)
    (h : Comes id a.size a.coroutine st (EventLoop.enterTask a.task τ l.store)
      (l.process a.task τ (EventLoop.thrownInto τ thrown)) out st' s) :
    Turn id a st l out st' (l.stepTask a.task thrown) ∧
      Tended a s (l.stepTask a.task thrown).store := by
  obtain ⟨pending', τ', task', go, waiting⟩ := task?_left pending task h.stretch
  have left : Tended a s (EventLoop.leaveTask a.task s) := tended_leaveTask s
  have stopped := stepTask_eq thrown pending task
  obtain ⟨outer, run⟩ := h.run
  rw [run] at stopped
  cases out with
  | ended r =>
    have known : ((EventLoop.leaveTask a.task s).task? a.task).getD τ = τ' := by rw [task']; rfl
    have store : (l.stepTask a.task thrown).store =
        ((EventLoop.finishTask a.task τ' r).run (EventLoop.leaveTask a.task s)).2 := by
      rw [stopped, ← known]
      rfl
    have queue : (l.stepTask a.task thrown).waiting = l.waiting.filter (·.1 ≠ a.task) := by
      rw [stopped]
      rfl
    obtain ⟨past, streams, concludes⟩ := concludes_ended id pending' task' go waiting
      h.leaves r store (by rw [queue]; exact lookup_filter_self ..)
    refine ⟨?_, left.trans past⟩
    exact
      { passes := ⟨_, s, tended_enterTask τ l.store, h.stretch, left.trans past⟩
        stream := by rw [streams]; exact h.stream
        concludes
        others := fun t ne => by rw [queue]; exact lookup_filter_ne ne _
        waiting := fun p hp => by
          rw [queue] at hp
          exact .inr (List.mem_filter.mp hp).1 }
  | stuck =>
    rw [stopped]
    refine ⟨?_, left⟩
    exact
      { passes := ⟨_, s, tended_enterTask τ l.store, h.stretch, left⟩
        stream := h.stream
        concludes := ⟨pending', lookup_filter_self .., h.leaves, fun τ₁ task₁ => by
          cases task'.symm.trans task₁
          exact waiting⟩
        others := fun t ne => lookup_filter_ne ne _
        waiting := fun p hp => .inr (List.mem_filter.mp hp).1 }
  | waits w rounds =>
    obtain ⟨suspended, -, waits, plain⟩ := h.leaves
    have store : (l.stepTask a.task thrown).store =
        ((EventLoop.suspendTask a.task (.future w)).run (EventLoop.leaveTask a.task s)).2 := by
      rw [stopped]
      rfl
    have queue : (l.stepTask a.task thrown).waiting =
        (a.task, resumption id a.size a.coroutine outer w rounds) ::
          l.waiting.filter (·.1 ≠ a.task) := by
      rw [stopped]
      rfl
    have lt := Store.lt_size_of_isPending waits
    have waits' : (EventLoop.leaveTask a.task s).isPending w :=
      isPending_congr (progress_modifyTask a.task w _ { s with context := none }) waits
    have plain' : (EventLoop.leaveTask a.task s).task? w = none := by
      have none := left.spares.task?_coroutine lt
      rw [plain] at none
      exact Option.map_eq_none_iff.mp none
    obtain ⟨past, streams, concludes⟩ := concludes_waits id pending' task' go suspended
      waits' plain' store ⟨outer, by rw [queue]; exact List.lookup_cons_self⟩
    refine ⟨?_, left.trans past⟩
    exact
      { passes := ⟨_, s, tended_enterTask τ l.store, h.stretch, left.trans past⟩
        stream := by rw [streams]; exact h.stream
        concludes
        others := fun t ne => by
          rw [queue, List.lookup_cons, beq_false_of_ne ne]
          exact lookup_filter_ne ne _
        waiting := fun p hp => by
          rw [queue] at hp
          rcases List.mem_cons.mp hp with rfl | hp
          · exact .inl rfl
          · exact .inr (List.mem_filter.mp hp).1 }

/-- A turn of a call that does not wait. While another one is under way it fails. -/
theorem turn_away (placed : a.Placed id l.store) (pending : l.store.isPending a.task)
    (h : l.store.streams[id]? = some st) (calm : st.Calm)
    (waiter : st.pulling = false → st.waiter = none) (away : a.Away l) (thrown : Option Fault) :
    ∃ out st', Turn id a st l out st' (l.stepTask a.task thrown) ∧
      (st.pulling = true → st' = st ∧ ∃ e, out = .ended (.error e)) := by
  obtain ⟨τ, task, coroutine⟩ := placed.task
  obtain ⟨k, hk, body⟩ := placed.coroutine
  obtain ⟨out, st', s', comes, busy⟩ := comes_taskMain (s := EventLoop.enterTask a.task τ l.store)
    (EventLoop.thrownInto τ thrown) h hk body away.coroutine waiter calm
  rw [← process_of_none away.lookup coroutine] at comes
  exact ⟨out, st', (turn_of_comes thrown pending task comes).1, busy⟩

/-- A turn of the call that waits. -/
theorem turn_paused {w rounds : Nat} (placed : a.Placed id l.store)
    (pending : l.store.isPending a.task) (h : l.store.streams[id]? = some st)
    (calm : st.Calm) (pulling : st.pulling = true)
    (paused : a.Paused id w rounds l) (thrown : Option Fault) :
    ∃ out st', Turn id a { st with waiter := none } l out st' (l.stepTask a.task thrown) := by
  obtain ⟨τ, task, -⟩ := placed.task
  obtain ⟨outer, lookup⟩ := paused.lookup
  obtain ⟨out, st', s', comes⟩ := comes_resumption (s := EventLoop.enterTask a.task τ l.store)
    outer w rounds (EventLoop.thrownInto τ thrown) h pulling paused.coroutine calm
  rw [← process_of_some lookup τ] at comes
  exact ⟨out, st', (turn_of_comes thrown pending task comes).1⟩

/-! ### Turns that get to the stream -/

/-- A turn of a call that gets to the stream and goes as far as it can. -/
structure Reaches (id : Nat) (a : Call) (st : ChunkStream) (l : EventLoop) (out : Outcome)
    (st' : ChunkStream) (l' : EventLoop) : Prop where
  turn : Turn id a st l out st' l'
  goes : ∃ s s', Tended a l.store s ∧ Goes id a.size a.coroutine st s out st' s' ∧
    Tended a s' l'.store

/-- The task of a call is not to be cancelled. -/
def Call.Uncancelled (a : Call) (s : Store) : Prop :=
  ∀ τ, s.task? a.task = some τ → τ.mustCancel = false

theorem thrownInto_none {τ : TaskState} (go : τ.mustCancel = false) :
    EventLoop.thrownInto τ none = none := by
  unfold EventLoop.thrownInto
  rw [go]
  rfl

/-- A call that begins while no other one is under way gets to the stream. -/
theorem reaches_created (placed : a.Placed id l.store) (pending : l.store.isPending a.task)
    (h : l.store.streams[id]? = some st) (calm : st.Calm) (free : st.pulling = false)
    (waiter : st.waiter = none) (lookup : l.waiting.lookup a.task = none)
    (created : l.store.coroutineState a.coroutine = .created)
    (go : a.Uncancelled l.store) :
    ∃ out st', Reaches id a st l out st' (l.stepTask a.task none) := by
  obtain ⟨τ, task, coroutine⟩ := placed.task
  obtain ⟨k, hk, body⟩ := placed.coroutine
  have process : l.process a.task τ (EventLoop.thrownInto τ none) =
      (taskMain mainEngine a.coroutine none).run := by
    rw [process_of_none lookup coroutine, thrownInto_none (go τ task)]
  have state : k.state = .created := by
    unfold Store.coroutineState at created
    rwa [hk] at created
  obtain ⟨out, st', s', comes, goes⟩ := goes_taskMain (s := EventLoop.enterTask a.task τ l.store)
    h hk body state free waiter calm
  rw [← process] at comes
  obtain ⟨turn, after⟩ := turn_of_comes none pending task comes
  exact ⟨out, st', turn, _, s', tended_enterTask τ l.store, goes, after⟩

/-- The call that waits gets to the stream when what it waits for is there. -/
theorem reaches_woken {w rounds : Nat} {v : Value} (placed : a.Placed id l.store)
    (pending : l.store.isPending a.task) (h : l.store.streams[id]? = some st)
    (calm : st.Calm) (pulling : st.pulling = true)
    (paused : a.Paused id w (rounds + 1) l) (finished : l.store.progress w = .finished v)
    (go : a.Uncancelled l.store) :
    ∃ out st', Reaches id a { st with waiter := none } l out st' (l.stepTask a.task none) := by
  obtain ⟨τ, task, -⟩ := placed.task
  obtain ⟨outer, lookup⟩ := paused.lookup
  have process : l.process a.task τ (EventLoop.thrownInto τ none) =
      resumption id a.size a.coroutine outer w (rounds + 1) none := by
    rw [process_of_some lookup, thrownInto_none (go τ task)]
  have finished' : (EventLoop.enterTask a.task τ l.store).progress w = .finished v :=
    (progress_modifyTask a.task w _ l.store).trans finished
  obtain ⟨out, st', s', comes, goes⟩ := goes_resumption (s := EventLoop.enterTask a.task τ l.store)
    outer w rounds h pulling paused.coroutine finished' calm
  rw [← process] at comes
  obtain ⟨turn, after⟩ := turn_of_comes none pending task comes
  exact ⟨out, st', turn, _, s', tended_enterTask τ l.store, goes, after⟩

/-! ### What a turn leaves alone -/

theorem Turn.spares {out : Outcome} (h : Turn id a st l out st' l') :
    l.store.Spares (· ≠ .stream id) (· ≠ a.task)
      (fun k => k ≠ a.coroutine ∧ .process .coroutine k ∉ st.queued) l'.store := by
  obtain ⟨s, s', before, stretch, after⟩ := h.passes
  have tended {s s'} (h : Tended a s s') : s.Spares (· ≠ .stream id) (· ≠ a.task)
      (fun k => k ≠ a.coroutine ∧ .process .coroutine k ∉ st.queued) s' :=
    h.spares.mono (fun _ _ => trivial) (fun _ h => h) fun _ _ => trivial
  have stretched := stretch.spares.2.mono (fun _ h => h) (fun w (_ : w ≠ a.task) => trivial)
    fun _ h => h
  exact ((tended before).trans stretched).trans (tended after)

namespace Call

variable {L : Listener → Prop} {T C : Nat → Prop} {w rounds : Nat}

theorem Placed.spared (h : a.Placed id s) (spares : s.Spares L T C s') : a.Placed id s' := by
  obtain ⟨τ, task, coroutine⟩ := h.task
  obtain ⟨k, hk, body⟩ := h.coroutine
  constructor
  · have same := spares.task?_coroutine (lt_of_task? task)
    rw [task, Option.map_some, Option.map_eq_some_iff] at same
    obtain ⟨τ', task', coroutine'⟩ := same
    exact ⟨τ', task', coroutine'.trans coroutine⟩
  · obtain ⟨k', hk', becomes⟩ := spares.coroutine _ k hk
    exact ⟨k', hk', becomes.body.trans body⟩

theorem Placed.lt_coroutines (h : a.Placed id s) : a.coroutine < s.coroutines.size := by
  obtain ⟨k, hk, -⟩ := h.coroutine
  exact (Array.getElem?_eq_some_iff.mp hk).1

theorem Placed.lt_futures (h : a.Placed id s) : a.task < s.futures.size := by
  obtain ⟨τ, task, -⟩ := h.task
  exact lt_of_task? task

/-- A change of the loop keeps what the call `a` relies on. -/
structure Keeps (a : Call) (l l' : EventLoop) : Prop where
  coroutine : l'.store.coroutineState a.coroutine = l.store.coroutineState a.coroutine
  pending : l.store.isPending a.task → l'.store.isPending a.task
  waiting : (l'.store.task? a.task).map (·.waiting) = (l.store.task? a.task).map (·.waiting)
  lookup : l'.waiting.lookup a.task = l.waiting.lookup a.task
  told : l.store.isPending a.task →
    ∀ w, l.store.Told (.task a.task) w → l'.store.Told (.task a.task) w

theorem Keeps.of_spares (placed : a.Placed id l.store) (spares : l.store.Spares L T C l'.store)
    (listener : L (.task a.task)) (task : T a.task) (coroutine : C a.coroutine)
    (lookup : l'.waiting.lookup a.task = l.waiting.lookup a.task) : a.Keeps l l' where
  coroutine := spares.coroutineState placed.lt_coroutines coroutine
  pending pending := spares.still_pending pending task
  waiting := by rw [spares.task? placed.lt_futures task]
  lookup := lookup
  told _ w told := spares.told _ _ listener told

theorem Keeps.task? (h : a.Keeps l l') {τ : TaskState}
    (task : l'.store.task? a.task = some τ) :
    ∃ τ', l.store.task? a.task = some τ' ∧ τ'.waiting = τ.waiting := by
  have waiting := h.waiting.symm
  rw [task, Option.map_some, Option.map_eq_some_iff] at waiting
  exact waiting

theorem Away.kept (h : a.Away l) (keeps : a.Keeps l l') : a.Away l' := by
  refine ⟨keeps.lookup.trans h.lookup, fun f => ?_, fun τ task => ?_⟩
  · rw [keeps.coroutine]
    exact h.coroutine f
  · obtain ⟨τ', task', same⟩ := keeps.task? task
    rw [← same]
    exact h.waiting τ' task'

theorem Waits.kept (h : a.Waits id w rounds l) (keeps : a.Keeps l l')
    (spares : l.store.Spares L T C l'.store) : a.Waits id w rounds l' := by
  obtain ⟨outer, lookup⟩ := h.lookup
  refine ⟨⟨⟨outer, keeps.lookup.trans lookup⟩, ?_⟩, keeps.pending h.pending, fun τ task => ?_,
    keeps.told h.pending w h.told, ?_⟩
  · rw [keeps.coroutine]
    exact h.coroutine
  · obtain ⟨τ', task', same⟩ := keeps.task? task
    rw [← same]
    exact h.waiting τ' task'
  · have none := spares.task?_coroutine h.told.lt_size
    rw [h.plain] at none
    exact Option.map_eq_none_iff.mp none

end Call

end

end StreamTemplate.Pull
