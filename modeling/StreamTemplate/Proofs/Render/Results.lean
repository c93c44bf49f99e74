import StreamTemplate.Proofs.Loop.Turn
import StreamTemplate.Proofs.Render.Escape

/-!
# What tasks come to

A task comes to nothing but what the body of its coroutine delivers. That is so from the moment on at
which nothing has been begun: whatever runs or waits then goes on to deliver what it is to deliver, each
step from one moment to the next keeps that up, and the end of a task is the only thing that brings it to
a result. What is said of the generators `D` depends on their being met as they should be, so the steps
are followed as long as either all of them are there and convert, or none of them is there yet.
-/

namespace StreamTemplate

variable {D : Converter → Prop}

namespace Store

variable {s s' s'' : Store} {t : Nat} {v : Value}

/-- The body of the coroutine of a task delivers such a value. -/
def Fits (D : Converter → Prop) (s : Store) (t : Nat) (v : Value) : Prop :=
  ∀ c, s.coroutineOf t = some c → ∃ b, s.bodyOf c = some b ∧ b.Delivers D v

/-- A task may end so. -/
def Delivery (D : Converter → Prop) (s : Store) (t : Nat) (r : Except Fault Value) : Prop :=
  ∀ v, r = .ok v → s.Fits D t v

theorem Fits.kept (h : s.Fits D t v) (kept : s.Kept s') (lt : t < s.futures.size) : s'.Fits D t v := by
  intro c task
  obtain ⟨b, body, delivers⟩ := h c ((kept.coroutineOf t lt).symm.trans task)
  exact ⟨b, kept.bodyOf c b body, delivers⟩

theorem Delivery.kept {r : Except Fault Value} (h : s.Delivery D t r) (kept : s.Kept s')
    (lt : t < s.futures.size) : s'.Delivery D t r :=
  fun v same => (h v same).kept kept lt

/-- The generators `D` are all there and convert as they are to, or none of them is there even then. -/
def Calm (D : Converter → Prop) (s s' : Store) : Prop :=
  (∀ i, D i → s.Converting i) ∨ ∀ i, D i → s'.generators.size ≤ i.generator

/-- From `s` to `s'` tasks and coroutines stay what they are, and generators `D` that convert go on to. -/
structure Goes (D : Converter → Prop) (s s' : Store) : Prop extends s.Kept s' where
  converting : (∀ i, D i → s.Converting i) → ∀ i, D i → s'.Converting i

theorem Goes.refl (s : Store) : s.Goes D s :=
  ⟨.of_same rfl rfl rfl, id⟩

theorem Goes.trans (h : s.Goes D s') (h' : s'.Goes D s'') : s.Goes D s'' :=
  ⟨h.toKept.trans h'.toKept, fun here => h'.converting (h.converting here)⟩

theorem Keeps.goes (h : s.Keeps D s') : s.Goes D s' :=
  ⟨h.toKept, fun here i known => h.converting i known (here i known)⟩

theorem Goes.completed (s : Store) (w : Nat) (p : Progress) : s.Goes D (s.completed w p) where
  toKept := .completed s w p
  converting here i known := by
    obtain ⟨g, there, converts⟩ := here i known
    exact ⟨g, by rw [(Leaves.completed s w p).generators, there], converts⟩

theorem Met.of_absent (absent : ∀ i, D i → s.generators.size ≤ i.generator) : s.Met D :=
  fun i known => .inl (absent i known)

namespace Calm

theorem met (h : s.Calm D s') (goes : s.Goes D s') : s'.Met D := by
  rcases h with here | absent
  · exact .of_converting (goes.converting here)
  · exact .of_absent absent

end Calm

end Store

/-! ### Processes that are run -/

namespace Process.Faithful

variable {α : Type} {P : α → Prop} {met : Prop} {s : Store} {p : Process Store α}

theorem kept_run (h : p.Faithful D P met s) : s.Kept (p.run s).2 ∧ s.Quiet (p.run s).2 := by
  induction p generalizing met s with
  | done | stuck | wait => exact ⟨.of_same rfl rfl rfl, .of_same rfl⟩
  | act x k ih =>
    obtain ⟨kept, quiet, -, rest⟩ := h
    obtain ⟨kept', quiet'⟩ := ih _ rest
    exact ⟨kept.trans kept', quiet.trans quiet'⟩

/-- What a process does first goes on as it began, and then the rest of it does. -/
theorem goes_act {β : Type} {x : StateM Store β} {k : β → Process Store α}
    (h : (Process.act x k).Faithful D P True s) :
    s.Goes D (x.run s).2 ∧ s.Quiet (x.run s).2 ∧
      ((x.run s).2.Met D → (k (x.run s).1).Faithful D P True (x.run s).2) := by
  obtain ⟨kept, quiet, converting, rest⟩ := h
  refine ⟨⟨kept, fun here i known => converting trivial i known (here i known)⟩, quiet, fun met => ?_⟩
  exact rest.mono (fun _ => ⟨trivial, met⟩) fun _ => id

/-- A process that is run while all is calm goes on as it began, and so does what is left of it. -/
theorem run (h : p.Faithful D P met s) (ok : met) (calm : s.Calm D (p.run s).2) :
    s.Goes D (p.run s).2 ∧ (∀ a, (p.run s).1 = .done a → P a) ∧
      ∀ w k, (p.run s).1 = .waiting w k →
        ∀ thrown s', (k thrown).Faithful D P (s'.Met D) s' := by
  induction p generalizing met s with
  | done a =>
    refine ⟨.refl s, ?_, nofun⟩
    rintro _ ⟨⟩
    exact h ok
  | stuck => exact ⟨.refl s, nofun, nofun⟩
  | wait w k =>
    refine ⟨.refl s, nofun, ?_⟩
    rintro _ _ ⟨⟩ thrown s'
    exact (h thrown s').mono (fun now => ⟨ok, now⟩) fun _ => id
  | act x k ih =>
    obtain ⟨kept, -, converting, rest⟩ := h
    have first : s.Goes D (x.run s).2 :=
      ⟨kept, fun here i known => converting ok i known (here i known)⟩
    have calm' : (x.run s).2.Calm D ((k (x.run s).1).run (x.run s).2).2 :=
      calm.imp first.converting id
    have now : (x.run s).2.Met D := by
      rcases calm with here | absent
      · exact .of_converting (first.converting here)
      · exact .of_absent fun i known =>
          Nat.le_trans rest.kept_run.1.generators (absent i known)
    obtain ⟨goes, ended, left⟩ := ih _ rest ⟨ok, now⟩ calm'
    exact ⟨first.trans goes, ended, left⟩

/-- So it is if something else is done behind it. -/
theorem run_then (h : p.Faithful D P met s) (ok : met) {s' : Store} (after : (p.run s).2.Goes D s')
    (calm : s.Calm D s') : s.Goes D s' ∧ (∀ a, (p.run s).1 = .done a → P a) ∧
      ∀ w k, (p.run s).1 = .waiting w k →
        ∀ thrown s', (k thrown).Faithful D P (s'.Met D) s' := by
  have calm' : s.Calm D (p.run s).2 :=
    calm.imp_right fun absent i known => Nat.le_trans after.generators (absent i known)
  obtain ⟨goes, ended, left⟩ := h.run ok calm'
  exact ⟨goes.trans after, ended, left⟩

end Process.Faithful

/-! ### Event loops -/

namespace EventLoop

/-- All tasks have come to what they are to deliver, and those that wait are going to. -/
structure Sound (D : Converter → Prop) (l : EventLoop) : Prop where
  met : l.store.Met D
  results : ∀ t v, l.store.progress t = .finished v → v = .none ∨ l.store.Fits D t v
  waiting : ∀ t k, (t, k) ∈ l.waiting → t < l.store.futures.size ∧
    ∀ thrown s, (k thrown).Faithful D (l.store.Delivery D t) (s.Met D) s

variable {l : EventLoop} {s : Store} {t : Nat} {τ : TaskState}

theorem Sound.of_unbegun (unbegun : l.Unbegun) (met : l.store.Met D) : l.Sound D where
  met := met
  results t v finished := by
    rw [Store.progress, unbegun.futures] at finished
    cases finished
  waiting t k waits := by
    rw [unbegun.waiting] at waits
    cases waits

/-- What an event loop comes to is right, if whatever is new in it is. -/
theorem Sound.onward {l' : EventLoop} (h : l.Sound D) (kept : l.store.Kept l'.store)
    (met : l'.store.Met D)
    (results : ∀ t v, l'.store.progress t = .finished v →
      l.store.progress t = .finished v ∨ v = .none ∨ l'.store.Fits D t v)
    (waiting : ∀ t k, (t, k) ∈ l'.waiting → (t, k) ∈ l.waiting ∨ t < l'.store.futures.size ∧
      ∀ thrown s, (k thrown).Faithful D (l'.store.Delivery D t) (s.Met D) s) : l'.Sound D where
  met := met
  results t v finished := by
    rcases results t v finished with before | new
    · exact (h.results t v before).imp_right fun fits => fits.kept kept (Store.lt_of_finished before)
    · exact new
  waiting t k waits := by
    rcases waiting t k waits with before | new
    · obtain ⟨lt, faithful⟩ := h.waiting t k before
      refine ⟨Nat.lt_of_lt_of_le lt kept.futures, fun thrown s' => ?_⟩
      exact (faithful thrown s').mono id fun r outcome => outcome.kept kept lt
    · exact new

/-- The results of tasks and what waits do not depend on what is done at once. -/
theorem Sound.goes (h : l.Sound D) (kept : l.store.Kept s) (quiet : l.store.Quiet s) (met : s.Met D) :
    { l with store := s }.Sound D :=
  show (EventLoop.mk s l.waiting).Sound D from
    h.onward kept met (fun t v finished => (quiet t v finished).imp_right .inl) fun _ _ => .inl

/-- Code that does not wait. -/
theorem Sound.withStore {α : Type} (h : l.Sound D) {x : StateM Store α}
    (hx : Obeys (Conduct.faithful D) x) (calm : l.store.Calm D (l.withStore x).2.store) :
    (l.withStore x).2.Sound D ∧ l.store.Goes D (l.withStore x).2.store := by
  have keeps : l.store.Keeps D (x.run l.store).2 := hx l.store
  exact ⟨h.goes keeps.toKept keeps.quiet (calm.met keeps.goes), keeps.goes⟩

/-- A task begins to run as it is to go on, or goes on as it waited. -/
theorem Sound.process (h : l.Sound D) (known : l.store.task? t = some τ) (thrown : Option Fault) :
    (l.process t τ thrown).Faithful D (l.store.Delivery D t) True (enterTask t τ l.store) := by
  have met : (enterTask t τ l.store).Met D := h.met
  rcases Pull.process_cases l t τ thrown with ⟨k, waits, same⟩ | same
  · rw [same]
    obtain ⟨-, faithful⟩ := h.waiting t k waits
    exact (faithful thrown _).mono (fun _ => met) fun _ => id
  · rw [same]
    refine faithful_taskMain (fun _ _ same => nomatch same) (fun b _ s' body now => ?_) thrown
    refine ((delivers_engine 200).body b _ s' now).mono id fun r delivers v same c task => ?_
    rw [Store.coroutineOf, known] at task
    cases task
    exact ⟨b, body, delivers v same⟩

theorem keeps_leaveTask (t : Nat) (s : Store) : s.Keeps D (leaveTask t s) := by
  have cleared : s.Keeps D { s with context := none } := .of_same rfl rfl rfl
  let note (future : Future) : Future :=
    { future with task := future.task.map fun τ => { τ with context := s.context } }
  have coroutine (future : Future) :
      (note future).task.map (·.coroutine) = future.task.map (·.coroutine) := by
    unfold note
    cases future.task with
    | none => rfl
    | some τ => rfl
  exact cleared.trans (.modifyFuture (f := note) t (fun _ => rfl) coroutine _)

/-- A task that has ended comes to what its code has ended in, or to no result. -/
theorem run_finishTask (t : Nat) (τ : TaskState) (r : Except Fault Value) (s : Store) :
    ∃ reports p, ((finishTask t τ r).run s).2 = ({ s with reports } : Store).completed t p ∧
      ∀ v, p = .finished v → r = .ok v := by
  unfold finishTask
  cases r with
  | ok u =>
    have only {p : Progress} (same : p = if τ.mustCancel then .cancelled else .finished u) :
        ∀ v, p = .finished v → (.ok u : Except Fault Value) = .ok v := by
      rintro v rfl
      split at same <;> cases same
      rfl
    cases τ.report with
    | none => exact ⟨s.reports, _, rfl, only rfl⟩
    | some name => exact ⟨_, _, rfl, only rfl⟩
  | error fault =>
    have none {p : Progress} (same : p = if fault.isA .cancelled then .cancelled else .failed fault) :
        ∀ v, p = .finished v → (.error fault : Except Fault Value) = .ok v := by
      rintro v rfl
      split at same <;> cases same
    cases τ.report with
    | none => exact ⟨s.reports, _, rfl, none rfl⟩
    | some name => exact ⟨_, _, rfl, none rfl⟩

/-- A task that is over or waits has come to what it is to deliver, or is going to. -/
theorem Sound.concludeTask (h : l.Sound D) (lt : t < l.store.futures.size)
    {p : Process Store (Except Fault Value)}
    (hp : p.Faithful D (l.store.Delivery D t) True l.store)
    (calm : l.store.Calm D (l.concludeTask t τ (p.run l.store)).store) :
    (l.concludeTask t τ (p.run l.store)).Sound D ∧
      l.store.Goes D (l.concludeTask t τ (p.run l.store)).store := by
  obtain ⟨-, quiet⟩ := hp.kept_run
  have ran {s' : Store} (after : (p.run l.store).2.Goes D s') := hp.run_then trivial after
  generalize p.run l.store = stopped at calm quiet ran ⊢
  obtain ⟨halted, s₁⟩ := stopped
  have left : s₁.Keeps D (leaveTask t s₁) := keeps_leaveTask t s₁
  have others {t' : Nat} {k : Continuation} (waits : (t', k) ∈ l.waiting.filter (·.1 ≠ t)) :
      (t', k) ∈ l.waiting :=
    (List.mem_filter.mp waits).1
  cases halted with
  | done r =>
    obtain ⟨reports, p', finish, same⟩ := run_finishTask t
      (((leaveTask t s₁).futures[t]?.bind (·.task)).getD τ) r (leaveTask t s₁)
    change l.store.Calm D ((finishTask t _ r).run (leaveTask t s₁)).2 at calm
    show (EventLoop.mk ((finishTask t _ r).run (leaveTask t s₁)).2 _).Sound D ∧
      l.store.Goes D ((finishTask t _ r).run (leaveTask t s₁)).2
    rw [finish] at calm ⊢
    have reported : s₁.Keeps D { (leaveTask t s₁) with reports } := left.trans (.of_same rfl rfl rfl)
    obtain ⟨goes, ended, -⟩ := ran (reported.goes.trans (.completed _ t p')) calm
    refine ⟨h.onward goes.toKept (calm.met goes) (fun t' v finished => ?_)
      fun t' k waits => .inl (others waits), goes⟩
    have there := Store.lt_of_finished finished
    by_cases self : t' = t
    · subst self
      rw [Store.progress_completed (Nat.lt_of_lt_of_eq there (Store.size_completed ..))] at finished
      exact .inr (.inr ((ended r rfl v (same v finished)).kept goes.toKept lt))
    · rw [Store.progress_completed_ne (Ne.symm self)] at finished
      exact ((quiet.trans reported.quiet) t' v finished).imp_right .inl
  | stuck =>
    obtain ⟨goes, -⟩ := ran left.goes calm
    refine ⟨h.onward goes.toKept (calm.met goes) (fun t' v finished => ?_)
      fun t' k waits => .inl (others waits), goes⟩
    exact ((quiet.trans left.quiet) t' v finished).imp_right .inl
  | waiting w k =>
    have suspend : Obeys (Conduct.faithful D) (suspendTask t w) := obeys_suspendTask t w
    have last : s₁.Keeps D ((suspendTask t w).run (leaveTask t s₁)).2 :=
      left.trans (suspend (leaveTask t s₁))
    obtain ⟨goes, -, goesOn⟩ := ran last.goes calm
    refine ⟨h.onward goes.toKept (calm.met goes) (fun t' v finished => ?_)
      fun t' k' waits => ?_, goes⟩
    · exact ((quiet.trans last.quiet) t' v finished).imp_right .inl
    · rcases List.mem_cons.mp waits with same | waits
      · cases same
        refine .inr ⟨Nat.lt_of_lt_of_le lt goes.futures, fun thrown s' => ?_⟩
        exact (goesOn w k rfl thrown s').mono id fun r outcome => outcome.kept goes.toKept lt
      · exact .inl (others waits)

theorem keeps_enterTask (t : Nat) (τ : TaskState) (s : Store) : s.Keeps D (enterTask t τ s) := by
  have reset : Obeys (Conduct.faithful D)
      (Store.modifyTask t fun τ => { τ with mustCancel := false, waiting := none }) :=
    Store.obeys_modifyTask t (fun _ => rfl) fun _ => rfl
  exact (reset s).trans (.of_same rfl rfl rfl)

/-- A task is resumed. -/
theorem Sound.resumed (h : l.Sound D) (known : l.store.task? t = some τ) (thrown : Option Fault) :
    { l with store := enterTask t τ l.store }.Sound D ∧
      t < (enterTask t τ l.store).futures.size ∧
      (l.process t τ thrown).Faithful D ((enterTask t τ l.store).Delivery D t) True
        (enterTask t τ l.store) := by
  have keeps : l.store.Keeps D (enterTask t τ l.store) := keeps_enterTask t τ l.store
  have lt := Pull.lt_of_task? known
  refine ⟨h.goes keeps.toKept keeps.quiet h.met, Nat.lt_of_lt_of_le lt keeps.futures, ?_⟩
  exact (h.process known thrown).mono id fun r outcome => outcome.kept keeps.toKept lt

theorem Sound.stepTask (h : l.Sound D) (thrown : Option Fault)
    (calm : l.store.Calm D (l.stepTask t thrown).store) :
    (l.stepTask t thrown).Sound D ∧ l.store.Goes D (l.stepTask t thrown).store := by
  rcases Pull.stepTask_cases l t thrown with same | ⟨τ, known, same⟩
  · rw [same]
    exact ⟨h, .refl _⟩
  · rw [same] at calm ⊢
    obtain ⟨entered, lt, faithful⟩ := h.resumed known (thrownInto τ thrown)
    have enters : l.store.Goes D (enterTask t τ l.store) := (keeps_enterTask t τ l.store).goes
    obtain ⟨sound, goes⟩ := entered.concludeTask (τ := τ) lt faithful (calm.imp_left enters.converting)
    exact ⟨sound, enters.trans goes⟩

/-- Code that belongs to no task is run as far as it goes. -/
theorem Sound.ended {α : Type} (h : l.Sound D) {P : Except Fault α → Prop}
    {p : Process Store (Except Fault α)} (hp : p.Faithful D P True l.store)
    (calm : l.store.Calm D (p.run l.store).2) :
    { l with store := (p.run l.store).2 }.Sound D ∧ l.store.Goes D (p.run l.store).2 := by
  obtain ⟨kept, quiet⟩ := hp.kept_run
  obtain ⟨goes, -⟩ := hp.run trivial calm
  exact ⟨h.goes kept quiet (calm.met goes), goes⟩

theorem keeps_context (context : Option Nat) (s : Store) : s.Keeps D { s with context } :=
  .of_same rfl rfl rfl

/-- Which render context is current does not matter. -/
theorem Sound.inContext (h : l.Sound D) (context : Option Nat) {run : EventLoop → EventLoop}
    (ran : ∀ l : EventLoop, l.Sound D → l.store.Calm D (run l).store →
      (run l).Sound D ∧ l.store.Goes D (run l).store)
    (calm : l.store.Calm D (l.inContext context run).store) :
    (l.inContext context run).Sound D ∧ l.store.Goes D (l.inContext context run).store := by
  have entered : l.store.Keeps D { l.store with context } := keeps_context context l.store
  obtain ⟨sound, goes⟩ := ran { l with store := { l.store with context } }
    (h.goes entered.toKept entered.quiet h.met) (calm.imp_left entered.goes.converting)
  have left : Store.Keeps D _ (l.inContext context run).store := keeps_context none _
  exact ⟨sound.goes left.toKept left.quiet sound.met, entered.goes.trans (goes.trans left.goes)⟩

/-- A turn of the loop. -/
theorem Sound.dispatch (h : l.Sound D) (r : Ready) (calm : l.store.Calm D (l.dispatch r).store) :
    (l.dispatch r).Sound D ∧ l.store.Goes D (l.dispatch r).store := by
  cases r with
  | step t thrown => exact h.stepTask thrown calm
  | wake t future => exact h.stepTask _ calm
  | notice stream future =>
    exact h.withStore (Store.obeys_onStream stream
      (ChunkStream.obeys_noticed (Store.obeys_surroundings stream) future)).run calm
  | render context r =>
    refine h.inContext context (fun l' within calm => ?_) calm
    rw [loop_runAside] at calm ⊢
    exact within.ended ((r.obeys_run (obeys_engine 200)).faithful fun _ => within.met) calm
  | spawn context coroutine =>
    exact h.inContext context (fun _ within => within.withStore (obeys_spawnBody coroutine)) calm

theorem Sound.dequeue (h : l.Sound D) {r : Ready} (next : l.store.dequeue = some (r, s)) :
    { l with store := s }.Sound D ∧ l.store.Goes D s := by
  obtain ⟨ready, rfl, -⟩ := Store.dequeue_eq next
  have taken : l.store.Keeps D { l.store with ready } := .of_same rfl rfl rfl
  exact ⟨h.goes taken.toKept taken.quiet h.met, taken.goes⟩

/-- What is no task may come to anything. -/
theorem Sound.settled (h : l.Sound D) {w : Nat} {p : Progress} (plain : l.store.task? w = none)
    (calm : l.store.Calm D (l.store.completed w p)) :
    { l with store := l.store.completed w p }.Sound D ∧ l.store.Goes D (l.store.completed w p) := by
  have goes : l.store.Goes D (l.store.completed w p) := .completed l.store w p
  refine ⟨h.onward goes.toKept (calm.met goes) (fun t v finished => ?_) fun _ _ => .inl, goes⟩
  by_cases self : t = w
  · refine .inr (.inr fun c task => ?_)
    have none : (l.store.completed w p).coroutineOf t = none := by
      rw [Store.coroutineOf, Store.task?_completed, self, plain]
      rfl
    cases none.symm.trans task
  · refine .inl ?_
    rwa [Store.progress_completed_ne (Ne.symm self)] at finished

end EventLoop

/-! ### Moments -/

namespace Moment

/-- All tasks have come to what they are to deliver, and what runs or waits is going to. -/
def Sound (D : Converter → Prop) : Moment → Prop
  | rest l => l.Sound D
  | task l t _ p => l.Sound D ∧ t < l.store.futures.size ∧
    p.Faithful D (l.store.Delivery D t) True l.store
  | aside l p => l.Sound D ∧ p.Faithful D (fun _ => True) True l.store

variable {m m' : Moment}

theorem Sound.loop (h : m.Sound D) : m.loop.Sound D := by
  cases m with
  | rest => exact h
  | task => exact h.1
  | aside => exact h.1

/-- What is done at a moment keeps up what is to be delivered, as long as the generators are met. -/
theorem Does.sound {β : Type} {x : StateM Store β} (does : Does x m m') (h : m.Sound D) :
    m.store.Goes D m'.store ∧ (m'.store.Met D → m'.Sound D) := by
  cases does with
  | @task l t τ k =>
    obtain ⟨sound, lt, faithful⟩ := h
    obtain ⟨goes, quiet, rest⟩ := faithful.goes_act
    refine ⟨goes, fun met => ⟨sound.goes goes.toKept quiet met, Nat.lt_of_lt_of_le lt goes.futures, ?_⟩⟩
    exact (rest met).mono id fun r outcome => outcome.kept goes.toKept lt
  | @aside _ l k =>
    obtain ⟨sound, faithful⟩ := h
    obtain ⟨goes, quiet, rest⟩ := faithful.goes_act
    exact ⟨goes, fun met => ⟨sound.goes goes.toKept quiet met, rest met⟩⟩

/-- Each step from one moment to the next keeps up what is to be delivered. -/
theorem Next.sound (next : Next m m') (h : m.Sound D) (calm : m.store.Calm D m'.store) :
    m'.Sound D ∧ m.store.Goes D m'.store := by
  cases next with
  | turn next =>
    obtain ⟨popped, taken⟩ := EventLoop.Sound.dequeue h next
    obtain ⟨sound, goes⟩ := popped.dispatch _ (calm.imp_left taken.converting)
    exact ⟨sound, taken.trans goes⟩
  | @resumed l r s t τ thrown next pending known =>
    obtain ⟨popped, taken⟩ := EventLoop.Sound.dequeue h next
    obtain ⟨ready, rfl, -⟩ := Store.dequeue_eq next
    exact ⟨popped.resumed known thrown, taken.trans (EventLoop.keeps_enterTask t τ _).goes⟩
  | @rendered l context r s next =>
    obtain ⟨popped, taken⟩ := EventLoop.Sound.dequeue h next
    have entered : s.Keeps D { s with context } := EventLoop.keeps_context context s
    refine ⟨⟨popped.goes entered.toKept entered.quiet popped.met, ?_⟩, taken.trans entered.goes⟩
    exact (r.obeys_run (obeys_engine 200)).faithful fun _ => popped.met
  | outside usual =>
    exact ⟨⟨h, (usual (Conduct.faithful D)).faithful fun _ => h.met⟩, .refl _⟩
  | settled plain => exact EventLoop.Sound.settled h plain calm
  | does does =>
    obtain ⟨goes, sound⟩ := does.sound h
    exact ⟨sound (calm.met goes), goes⟩
  | concluded =>
    obtain ⟨sound, lt, faithful⟩ := h
    exact sound.concludeTask lt faithful calm
  | @ended _ l p =>
    obtain ⟨sound, faithful⟩ := h
    obtain ⟨ended, goes⟩ := sound.ended faithful calm
    have left := EventLoop.keeps_context (D := D) none (p.run l.store).2
    exact ⟨ended.goes left.toKept left.quiet ended.met, goes.trans left.goes⟩

/-- Once the generators `D` are all there and convert, all goes on as it should. -/
theorem Sound.later (h : m.Sound D) (here : ∀ i, D i → m.store.Converting i) (later : m.Later m') :
    m'.Sound D ∧ m.store.Goes D m'.store := by
  induction later with
  | refl => exact ⟨h, .refl _⟩
  | tail before next ih =>
    obtain ⟨sound, goes⟩ := ih
    obtain ⟨sound', goes'⟩ := next.sound sound (.inl (goes.converting here))
    exact ⟨sound', goes.trans goes'⟩

/-- Up to a moment at which none of the generators `D` is there yet, all goes as it should. -/
theorem sound_of_unbegun {l : EventLoop} (unbegun : l.Unbegun) (later : (rest l).Later m)
    (absent : ∀ i, D i → m.store.generators.size ≤ i.generator) : m.Sound D := by
  have grows {m₁ m₂ : Moment} (before : (rest l).Later m₁) (next : Next m₁ m₂) :
      m₁.store.generators.size ≤ m₂.store.generators.size := by
    have none (i : Converter) (known : False) : m₁.store.Converting i := known.elim
    have begun : (rest l).Sound fun _ => False := .of_unbegun unbegun fun _ => False.elim
    obtain ⟨sound, -⟩ := begun.later (fun _ => False.elim) before
    exact (next.sound sound (.inl none)).2.generators
  induction later with
  | refl => exact .of_unbegun unbegun (.of_absent absent)
  | tail before next ih =>
    have sound := ih fun i known => Nat.le_trans (grows before next) (absent i known)
    exact (next.sound sound (.inr absent)).1

end Moment

end StreamTemplate
