import StreamTemplate.Proofs.Loop.Underway
import StreamTemplate.Proofs.Render.Nested

/-!
# A coroutine that is closed stays closed

Nothing that runs brings a coroutine back that is closed. The only code that could is the code that keeps
the state of a coroutine while it runs; but a coroutine that is running cannot be closed, and one that is
closed while it waits does not go on. So the rule is twofold: leave closed what is closed, and leave
alone what is running. It is a conduct, hence whatever the event loop runs keeps to it.
-/

namespace StreamTemplate

/-! ### Closed and running coroutines -/

namespace Store

variable {own own' : Nat → Prop} {s s' s'' : Store} {c : Nat}

/-- The coroutines `own` are running. -/
def Running (own : Nat → Prop) (s : Store) : Prop :=
  ∀ c, own c → s.coroutineState c = .running

/-- From `s` to `s'` coroutines that are closed stay closed, and those of `own` that are running go on. -/
structure Holds (own : Nat → Prop) (s s' : Store) : Prop where
  size : s.coroutines.size ≤ s'.coroutines.size
  closed : ∀ c < s.coroutines.size, s.coroutineState c = .closed → s'.coroutineState c = .closed
  running : ∀ c, own c → s.coroutineState c = .running → s'.coroutineState c = .running

namespace Holds

theorem of_same (same : s'.coroutines = s.coroutines) : s.Holds own s' := by
  constructor
  case size => exact Nat.le_of_eq (congrArg _ same.symm)
  case closed =>
    intro c _ closed
    rwa [coroutineState, same]
  case running =>
    intro c _ running
    rwa [coroutineState, same]

theorem trans (h : s.Holds own s') (h' : s'.Holds own s'') : s.Holds own s'' where
  size := Nat.le_trans h.size h'.size
  closed c lt closed := h'.closed c (Nat.lt_of_lt_of_le lt h.size) (h.closed c lt closed)
  running c mine running := h'.running c mine (h.running c mine running)

theorem mono (h : s.Holds own s') (sub : ∀ c, own' c → own c) : s.Holds own' s' :=
  ⟨h.size, h.closed, fun c mine => h.running c (sub c mine)⟩

theorem runs (h : s.Holds own s') (running : s.Running own) : s'.Running own :=
  fun c mine => h.running c mine (running c mine)

end Holds

theorem coroutineState_setCoroutine_ne {c' : Nat} (ne : c ≠ c') (s : Store) (state : CoroutineState) :
    (s.setCoroutine c state).coroutineState c' = s.coroutineState c' := by
  unfold coroutineState setCoroutine
  rw [Array.getElem?_modify, if_neg ne]

theorem lt_of_not_closed (there : s.coroutineState c ≠ .closed) : c < s.coroutines.size := by
  refine Nat.lt_of_not_le fun ge => there ?_
  rw [coroutineState, Array.getElem?_eq_none ge]
  rfl

theorem size_setCoroutine (s : Store) (c : Nat) (state : CoroutineState) :
    (s.setCoroutine c state).coroutines.size = s.coroutines.size :=
  Array.size_modify

/-- A coroutine that is not closed comes to another state, and no one else's that is running is stopped. -/
theorem holds_setCoroutine (state : CoroutineState) (there : s.coroutineState c ≠ .closed)
    (other : ¬ own c) : s.Holds own (s.setCoroutine c state) where
  size := Nat.le_of_eq (s.size_setCoroutine c state).symm
  closed c' _ closed := by
    have ne : c ≠ c' := fun same => there (same ▸ closed)
    rw [coroutineState_setCoroutine_ne ne, closed]
  running c' mine running := by
    have ne : c ≠ c' := fun same => other (same ▸ mine)
    rw [coroutineState_setCoroutine_ne ne, running]

/-- A coroutine is closed. -/
theorem holds_setCoroutine_closed (other : ¬ own c) : s.Holds own (s.setCoroutine c .closed) where
  size := Nat.le_of_eq (s.size_setCoroutine c .closed).symm
  closed c' _ closed := by
    by_cases same : c = c'
    · subst same
      exact s.coroutineState_closed c
    · rw [coroutineState_setCoroutine_ne same, closed]
  running c' mine running := by
    have ne : c ≠ c' := fun same => other (same ▸ mine)
    rw [coroutineState_setCoroutine_ne ne, running]

theorem Running.not_closed (h : s.Running own) (mine : own c) : s.coroutineState c ≠ .closed := by
  rw [h c mine]
  nofun

theorem Running.other (h : s.Running own) (idle : s.coroutineState c ≠ .running) : ¬ own c :=
  fun mine => idle (h c mine)

end Store

/-! ### Processes -/

namespace Process

variable {α β : Type} {own : Nat → Prop} {s s' : Store}

/-- Going on from a store while the coroutines `own` are running in it, a process brings back none that is
closed and stops none of `own`, whatever others do while it waits, as long as `own` are running again
when it is resumed. -/
def Steady (own : Nat → Prop) : Process Store α → Store → Prop
  | done _, _ => True
  | stuck, _ => True
  | act x k, s => s.Holds own (x.run s).2 ∧ (k (x.run s).1).Steady own (x.run s).2
  | wait _ k, _ => ∀ thrown s', s'.Running own → (k thrown).Steady own s'

/-- The stores that a process goes through until it stops. -/
inductive Visits : Process Store α → Store → Store → Prop
  | here {p s} : Visits p s s
  | act {γ : Type} {x : StateM Store γ} {k s s'} (rest : Visits (k (x.run s).1) (x.run s).2 s') :
      Visits (act x k) s s'

namespace Steady

theorem bind {p : Process Store α} {f : α → Process Store β} (h : p.Steady own s)
    (running : s.Running own) (next : ∀ a s', s'.Running own → (f a).Steady own s') :
    (p >>= f).Steady own s := by
  induction p generalizing s with
  | done a => exact next a s running
  | stuck => trivial
  | act x k ih => exact ⟨h.1, ih _ h.2 (h.1.runs running)⟩
  | wait w k ih => exact fun thrown s' running' => ih _ (h thrown s' running') running'

/-- Where a process has stopped nothing that was closed is back, and so it is when it goes on. -/
theorem run {p : Process Store α} (h : p.Steady own s) : s.Holds own (p.run s).2 ∧
    ∀ w k, (p.run s).1 = .waiting w k → ∀ thrown s', s'.Running own → (k thrown).Steady own s' := by
  induction p generalizing s with
  | done a => exact ⟨.of_same rfl, nofun⟩
  | stuck => exact ⟨.of_same rfl, nofun⟩
  | act x k ih =>
    obtain ⟨later, goesOn⟩ := ih _ h.2
    exact ⟨h.1.trans later, goesOn⟩
  | wait w k ih =>
    refine ⟨.of_same rfl, ?_⟩
    rintro _ _ ⟨⟩
    exact h

theorem visits {p : Process Store α} (h : p.Steady own s) (visits : p.Visits s s') :
    s.Holds own s' := by
  induction visits with
  | here => exact .of_same rfl
  | act _ ih => exact h.1.trans (ih h.2)

/-- Running a coroutine keeps its own state, and if it is closed meanwhile it does not go on. -/
theorem superviseCoroutine {id : Nat} {before : Option Nat} {p : Process Store (Except Fault Value)}
    (h : p.Steady (fun c => own c ∨ c = id) s) (running : s.Running fun c => own c ∨ c = id)
    (other : ¬ own id) : (superviseCoroutine id before p).Steady own s := by
  have there {s : Store} (running : s.Running fun c => own c ∨ c = id) :=
    running.not_closed (.inr (Eq.refl id))
  induction p generalizing s with
  | done r => exact ⟨Store.holds_setCoroutine .closed (there running) other, trivial⟩
  | stuck => trivial
  | act x k ih =>
    exact ⟨h.1.mono fun _ => .inl, ih _ h.2 (h.1.runs running)⟩
  | wait w k ih =>
    refine ⟨Store.holds_setCoroutine _ (there running) other, fun thrown s' back =>
      ⟨.of_same rfl, ?_⟩⟩
    show Steady _ (if s'.coroutineState id = .closed then _ else _) s'
    split
    · exact ⟨.of_same rfl, trivial⟩
    · next there' =>
      have resumed : (s'.setCoroutine id .running).Running fun c => own c ∨ c = id := by
        rintro c (mine | rfl)
        · have ne : id ≠ c := fun same => other (same ▸ mine)
          rw [Store.coroutineState_setCoroutine_ne ne, back c mine]
        · exact Pull.coroutineState_setCoroutine (Store.lt_of_not_closed there')
      exact ⟨Store.holds_setCoroutine _ there' other, ih thrown (h thrown _ resumed) resumed⟩

end Steady

end Process

/-! ### Coroutines that are run -/

namespace Run

variable {α : Type} {own : Nat → Prop} {s : Store}

theorem steady_get {f : Store → Run α} (hf : (f s).run.Steady own s) :
    (Run.act get >>= f).run.Steady own s :=
  ⟨.of_same rfl, hf⟩

theorem steady_setCoroutine {id : Nat} {state : CoroutineState} {f : Unit → Run α}
    (held : s.Holds own (s.setCoroutine id state))
    (hf : (f ()).run.Steady own (s.setCoroutine id state)) :
    (Run.act (modify fun s => s.setCoroutine id state) >>= f).run.Steady own s :=
  ⟨held, hf⟩

theorem steady_attempt {β : Type} {x : Run β} {f : Except Fault β → Run α} (hx : x.run.Steady own s)
    (running : s.Running own) (hf : ∀ r s', s'.Running own → (f r).run.Steady own s') :
    (Run.attempt x >>= f).run.Steady own s := by
  have run : (Run.attempt x >>= f).run = x.run >>= fun r => (f r).run := by
    rw [ExceptT.run_bind, attempt, ExceptT.run_mk, map_eq_pure_bind, bind_assoc]
    rfl
  rw [run]
  exact hx.bind running hf

theorem steady_attempt_wait {w : Wait} {f : Except Fault Unit → Run α}
    (hf : ∀ (thrown : Option Fault) (s' : Store), s'.Running own → (f (thrown.elim (.ok ()) .error)).run.Steady own s') :
    (Run.attempt (Run.wait w) >>= f).run.Steady own s := by
  intro thrown s' back
  cases thrown with
  | none => exact hf none s' back
  | some fault => exact hf (some fault) s' back

end Run

section

variable {e : Engine} {own : Nat → Prop} {s : Store}

theorem steady_runCoroutine
    (body : ∀ b own s, Store.Running own s → (e.body b).run.Steady own s)
    {id : Nat} (there : s.coroutineState id ≠ .closed) (other : ¬ own id) (running : s.Running own) :
    (runCoroutine e id).run.Steady own s := by
  refine Run.steady_get ?_
  split
  · trivial
  · next c _ =>
    refine Run.steady_setCoroutine (Store.holds_setCoroutine _ there other) ?_
    have begun : (s.setCoroutine id .running).Running fun c => own c ∨ c = id := by
      rintro c (mine | rfl)
      · have ne : id ≠ c := fun same => other (same ▸ mine)
        rw [Store.coroutineState_setCoroutine_ne ne, running c mine]
      · exact Pull.coroutineState_setCoroutine (Store.lt_of_not_closed there)
    exact (body c.body _ _ begun).superviseCoroutine begun other

theorem steady_awaitCoroutine
    (body : ∀ b own s, Store.Running own s → (e.body b).run.Steady own s)
    (id : Nat) (running : s.Running own) : (awaitCoroutine e id).run.Steady own s := by
  refine Run.steady_get ?_
  split
  · next created =>
    refine steady_runCoroutine body ?_ (running.other ?_) running
    · rw [created]
      nofun
    · rw [created]
      nofun
  · trivial
  · trivial
  · trivial

theorem steady_joinCoroutine (id rounds : Nat) (running : s.Running own) :
    (joinCoroutine id rounds).run.Steady own s := by
  induction rounds generalizing s with
  | zero => trivial
  | succ rounds ih =>
    refine Run.steady_get ?_
    split
    · next suspended =>
      have other : ¬ own id := by
        refine running.other ?_
        rw [suspended]
        nofun
      refine Run.steady_attempt_wait fun thrown s' back => ?_
      cases thrown with
      | none => exact ih back
      | some fault => exact Run.steady_setCoroutine (Store.holds_setCoroutine_closed other) trivial
    · trivial
    · trivial

theorem steady_taskMain
    (body : ∀ b own s, Store.Running own s → (e.body b).run.Steady own s)
    (id : Nat) (thrown : Option Fault) (running : s.Running own) :
    (taskMain e id thrown).run.Steady own s := by
  refine Run.steady_get ?_
  have ended {fault : Fault} (idle : s.coroutineState id ≠ .running) :
      (do
        Run.act (modify fun s => s.setCoroutine id .closed)
        throw fault : Run Value).run.Steady own s :=
    Run.steady_setCoroutine (Store.holds_setCoroutine_closed (running.other idle)) trivial
  split
  · next created =>
    refine steady_runCoroutine body ?_ (running.other ?_) running
    · rw [created]
      nofun
    · rw [created]
      nofun
  · next created =>
    refine ended ?_
    rw [created]
    nofun
  · next suspended =>
    refine ended ?_
    rw [suspended]
    nofun
  · exact steady_joinCoroutine id _ running
  · trivial
  · trivial

end

/-! ### Generators that are asked for an item -/

theorem steady_nextYielded {e : Engine} {own : Nat → Prop} {s : Store}
    (generator : ∀ body own s, Store.Running own s → (runGenerator e body).run.Steady own s)
    (id : Nat) (running : s.Running own) : (nextYielded e id).run.Steady own s := by
  refine Run.steady_get ?_
  split
  · trivial
  · next g _ =>
    split
    · trivial
    · refine ⟨.of_same rfl, Run.steady_attempt (generator g.body own _ running) running
        fun halt s' back => ⟨.of_same rfl, ?_⟩⟩
      dsimp only
      split <;> trivial

/-! ### The conduct -/

/-- Not to bring back what is closed, nor to stop what is running. -/
def Conduct.steady : Conduct where
  act x := ∀ s : Store, s.Holds (fun _ => True) (x.run s).2
  run p := ∀ own s, Store.Running own s → p.Steady own s
  within _ _ p := ∀ own s, Store.Running own s → p.Steady own s
  leaves _ _ _ p := ∀ own s, Store.Running own s → p.Steady own s
  act_pure _ _ := .of_same rfl
  act_bind hx hf s := (hx s).trans (hf _ _)
  run_done _ _ _ _ := trivial
  run_stuck _ _ _ := trivial
  run_act hx own s _ := ⟨(hx s).mono fun _ _ => trivial, trivial⟩
  run_wait goesOn own _ _ := fun thrown s' back => goesOn thrown own s' back
  run_bind hp hf own s running := (hp own s running).bind running fun a s' back => hf a own s' back
  within_run hp := hp
  within_bind hp hf own s running := (hp own s running).bind running fun a s' back => hf a own s' back
  setLine _ _ _ _ _ := ⟨.of_same rfl, trivial⟩
  leaves_within hp hf own s running := (hp own s running).bind running fun a s' back => hf a own s' back
  leaves_back hp own _ running := ⟨.of_same rfl, hp own _ running⟩
  newContext _ _ hf own s running := ⟨.of_same rfl, .of_same rfl, .of_same rfl, hf _ _ own _ running⟩
  unseen same s := .of_same (same s).coroutines
  newCoroutine body s := by
    have old {c : Nat} (lt : c < s.coroutines.size) :
        ((Store.newCoroutine body).run s).2.coroutineState c = s.coroutineState c := by
      show (((s.coroutines.push _)[c]?).map _).getD _ = _
      rw [Array.getElem?_push_lt lt, Store.coroutineState, Array.getElem?_eq_getElem lt]
    constructor
    case size => exact Nat.le_of_lt (Nat.lt_of_lt_of_eq (Nat.lt_succ_self _) (Array.size_push ..).symm)
    case closed => exact fun c lt closed => (old lt).trans closed
    case running => exact fun c _ goesOn => (old (Pull.lt_of_running goesOn)).trans goesOn
  closeCoroutine id s := by
    rw [Store.run_closeCoroutine]
    split
    · exact .of_same rfl
    · next idle =>
      have closed : s.Holds (fun c => c ≠ id) (s.setCoroutine id .closed) :=
        Store.holds_setCoroutine_closed fun other => other rfl
      refine ⟨closed.size, closed.closed, fun c _ goesOn => closed.running c ?_ goesOn⟩
      exact fun same => idle (same ▸ goesOn)
  newGenerator _ _ := .of_same rfl
  newFuture _ := .of_same rfl
  newTask _ _ _ := .of_same rfl
  modifyFuture _ _ _ _ _ _ := .of_same rfl
  wakes := trivial
  cancels := trivial
  complete id progress _ s := .of_same (Store.coroutines_completed s id progress)
  setStreams _ _ := .of_same rfl
  await body id own s running := steady_awaitCoroutine body id running
  main body id thrown own s running := steady_taskMain body id thrown running
  yield generator id own s running := steady_nextYielded generator id running

theorem Obeys.holds {α : Type} {x : StateM Store α} (hx : Obeys Conduct.steady x) (s : Store) :
    s.Holds (fun _ => True) (x.run s).2 :=
  hx s

theorem Obeys.steady {α : Type} {p : Process Store α} (hp : Obeys Conduct.steady p) (s : Store) :
    p.Steady (fun _ => False) s :=
  hp _ s fun _ => False.elim

/-! ### What can come of an event loop -/

namespace EventLoop

/-- Whatever waits brings nothing back that is closed. That is so if the loop began with nothing that
waits. -/
def Orderly (l : EventLoop) : Prop :=
  ∀ t k, (t, k) ∈ l.waiting → ∀ thrown s, (k thrown).Steady (fun _ => False) s

/-- What can come of an event loop: it takes its turns, and code is run from outside that does what any
code may do. -/
inductive Later (l : EventLoop) : EventLoop → Prop
  | here : Later l l
  | turn {l₁ : EventLoop} {r : Ready} {s : Store} (before : Later l l₁)
      (next : l₁.store.dequeue = some (r, s)) : Later l (dispatch r { l₁ with store := s })
  | outside {α : Type} {l₁ : EventLoop} {x : Run α} (before : Later l l₁)
      (usual : ∀ C : Conduct, Obeys C x) : Later l (l₁.runAside x).2

/-- What is run in an event loop from some time on, and the store that it begins from: what is left of a
task that is resumed, and code from outside. -/
inductive Begins (l : EventLoop) : {α : Type} → Process Store α → Store → Prop
  | resumed {l₁ : EventLoop} {r : Ready} {s : Store} {t : Nat} {τ : TaskState}
      {thrown : Option Fault} (later : Later l l₁) (next : l₁.store.dequeue = some (r, s))
      (task : s.task? t = some τ) : Begins l (l₁.process t τ thrown) (enterTask t τ s)
  | outside {α : Type} {l₁ : EventLoop} {x : Run α} (later : Later l l₁)
      (usual : ∀ C : Conduct, Obeys C x) : Begins l x.run l₁.store

section

variable {l l' : EventLoop} {s : Store}

theorem steady_process (h : l.Orderly) (t : Nat) (τ : TaskState) (thrown : Option Fault) (s : Store) :
    (l.process t τ thrown).Steady (fun _ => False) s := by
  rcases Pull.process_cases l t τ thrown with ⟨k, waits, same⟩ | same
  · rw [same]
    exact h t k waits thrown s
  · rw [same]
    exact (obeys_taskMain (obeys_engine 200) τ.coroutine thrown).run.steady s

theorem Orderly.concludeTask (h : l.Orderly) {t : Nat} {τ : TaskState}
    {p : Process Store (Except Fault Value)} (hp : p.Steady (fun _ => False) s) :
    (l.concludeTask t τ (p.run s)).Orderly ∧
      s.Holds (fun _ => False) (l.concludeTask t τ (p.run s)).store := by
  obtain ⟨ran, goesOn⟩ := hp.run
  generalize p.run s = stopped at ran goesOn
  obtain ⟨halted, s₁⟩ := stopped
  obtain ⟨last, steady, store⟩ := store_concludeTask l t τ halted s₁
  have left : s.Holds (fun _ => False) (leaveTask t s₁) := ran.trans (.of_same rfl)
  refine ⟨fun t' k waits thrown s' => ?_, ?_⟩
  · rcases mem_concludeTask waits with ⟨before, -⟩ | ⟨rfl, w, rfl⟩
    · exact h t' k before thrown s'
    · exact goesOn w k rfl thrown s' fun _ => False.elim
  · rw [store]
    exact left.trans (((steady Conduct.steady).holds _).mono fun _ => False.elim)

theorem Orderly.stepTask (h : l.Orderly) (t : Nat) (thrown : Option Fault) :
    (l.stepTask t thrown).Orderly ∧ l.store.Holds (fun _ => False) (l.stepTask t thrown).store := by
  rcases Pull.stepTask_cases l t thrown with same | ⟨τ, -, same⟩
  · rw [same]
    exact ⟨h, .of_same rfl⟩
  · rw [same]
    obtain ⟨orderly, holds⟩ :=
      h.concludeTask (steady_process h t τ (thrownInto τ thrown) (enterTask t τ l.store))
    have entered : l.store.Holds (fun _ => False) (enterTask t τ l.store) := .of_same rfl
    exact ⟨orderly, entered.trans holds⟩

theorem Orderly.runAside {α : Type} (h : l.Orderly) {x : Run α} (hx : Obeys Conduct.steady x) :
    (l.runAside x).2.Orderly ∧ l.store.Holds (fun _ => False) (l.runAside x).2.store := by
  obtain ⟨ran, -⟩ := (hx.run.steady l.store).run
  unfold EventLoop.runAside
  dsimp only
  split <;> exact ⟨h, ran⟩

theorem Orderly.withStore {α : Type} (h : l.Orderly) {x : StateM Store α}
    (hx : Obeys Conduct.steady x) :
    (l.withStore x).2.Orderly ∧ l.store.Holds (fun _ => False) (l.withStore x).2.store :=
  ⟨h, (hx.holds l.store).mono fun _ => False.elim⟩

/-- Which render context is current does not matter. -/
theorem Orderly.inContext (h : l.Orderly) (context : Option Nat) {run : EventLoop → EventLoop}
    (ran : ∀ l : EventLoop, l.Orderly →
      (run l).Orderly ∧ l.store.Holds (fun _ => False) (run l).store) :
    (l.inContext context run).Orderly ∧ l.store.Holds (fun _ => False) (l.inContext context run).store := by
  have within : { l with store := { l.store with context } }.Orderly := h
  obtain ⟨orderly, holds⟩ := ran _ within
  have entered : l.store.Holds (fun _ => False) { l.store with context } := .of_same rfl
  exact ⟨orderly, entered.trans (holds.trans (.of_same rfl))⟩

/-- A turn of the loop. -/
theorem Orderly.dispatch (h : l.Orderly) (r : Ready) :
    (l.dispatch r).Orderly ∧ l.store.Holds (fun _ => False) (l.dispatch r).store := by
  cases r with
  | step t thrown => exact h.stepTask t thrown
  | wake t future => exact h.stepTask t _
  | notice stream future =>
    exact h.withStore (Store.obeys_onStream stream
      (ChunkStream.obeys_noticed (Store.obeys_surroundings stream) future)).run
  | render context r =>
    exact h.inContext context fun _ within => within.runAside (r.obeys_run (obeys_engine 200))
  | spawn context coroutine =>
    exact h.inContext context fun _ within => within.withStore (obeys_spawnBody coroutine)

/-- Whatever comes of an event loop leaves closed what is closed. -/
theorem Later.holds (later : l.Later l') (h : l.Orderly) :
    l'.Orderly ∧ l.store.Holds (fun _ => False) l'.store := by
  induction later with
  | here => exact ⟨h, .of_same rfl⟩
  | @turn l₁ r s before next ih =>
    obtain ⟨orderly, holds⟩ := ih
    obtain ⟨ready, rfl, -⟩ := Store.dequeue_eq next
    have taken : l₁.store.Holds (fun _ => False) { l₁.store with ready } := .of_same rfl
    have popped : { l₁ with store := { l₁.store with ready } }.Orderly := orderly
    obtain ⟨orderly', holds'⟩ := popped.dispatch r
    exact ⟨orderly', (holds.trans taken).trans holds'⟩
  | outside before usual ih =>
    obtain ⟨orderly, holds⟩ := ih
    obtain ⟨orderly', holds'⟩ := orderly.runAside (usual .steady)
    exact ⟨orderly', holds.trans holds'⟩

/-- A coroutine that is closed stays closed, whatever comes of the event loop, and at no point of
anything that is run then is it in any other state. -/
theorem Orderly.closed (h : l.Orderly) {c : Nat} (lt : c < l.store.coroutines.size)
    (closed : l.store.coroutineState c = .closed) :
    (∀ l', l.Later l' → l'.store.coroutineState c = .closed) ∧
      ∀ {α : Type} {p : Process Store α} {s s'}, l.Begins p s → p.Visits s s' →
        s'.coroutineState c = .closed := by
  have later {l' : EventLoop} (later : l.Later l') := (later.holds h).2.closed c lt closed
  refine ⟨fun l' => later, fun begins visits => ?_⟩
  cases begins with
  | @resumed l₁ r s t τ thrown before next task =>
    obtain ⟨orderly, holds⟩ := before.holds h
    obtain ⟨ready, rfl, -⟩ := Store.dequeue_eq next
    have ran := (steady_process orderly t τ thrown (enterTask t τ { l₁.store with ready })).visits visits
    exact ran.closed c (Nat.lt_of_lt_of_le lt holds.size) (later before)
  | outside before usual =>
    obtain ⟨orderly, holds⟩ := before.holds h
    have ran := ((usual .steady).run.steady _).visits visits
    exact ran.closed c (Nat.lt_of_lt_of_le lt holds.size) (later before)

end

end EventLoop

end StreamTemplate
