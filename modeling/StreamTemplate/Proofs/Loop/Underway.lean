import StreamTemplate.Proofs.Loop.Turn

/-!
# Pulls that are under way

A pull is under way when its coroutine has begun and is not over. A turn of a call that gets to the
stream leaves its pull over, with nothing asked of the stream, or under way, with its size asked for;
a turn that does not get there changes neither.
-/

namespace StreamTemplate

namespace Store

/-- A coroutine has begun and is not over. -/
def UnderWay (s : Store) (c : Nat) : Prop :=
  s.coroutineState c ≠ .created ∧ s.coroutineState c ≠ .closed

theorem UnderWay.congr {s s' : Store} {c : Nat} (h : s.UnderWay c)
    (same : s'.coroutineState c = s.coroutineState c) : s'.UnderWay c := by
  unfold UnderWay
  rwa [same]

theorem coroutineState_closed (s : Store) (c : Nat) :
    (s.setCoroutine c .closed).coroutineState c = .closed := by
  by_cases lt : c < s.coroutines.size
  · exact Pull.coroutineState_setCoroutine lt
  · have none : (s.setCoroutine c .closed).coroutines[c]? = none := by
      apply Array.getElem?_eq_none
      show (s.coroutines.modify c _).size ≤ c
      rw [Array.size_modify]
      omega
    unfold coroutineState
    rw [none]
    rfl

end Store

namespace ChunkStream

variable {id : Nat} {size : Option Int} {st st' : ChunkStream} {s s' : Store}

theorem Serves.demand (h : Serves id size st s (.ok .wait) st' s') : st'.demand = size := by
  generalize hr : (.ok .wait : Except Fault Advance) = r at h
  cases h with
  | empty | awaiting | requesting => rfl
  | @settled _ _ _ _ r => cases r <;> cases hr
  | ended | closeFault | literal | unusable | escaping => cases hr

/-- A pull that has to wait asks for its size. -/
theorem Advances.demand (h : Advances id size st s (.ok .wait) st' s') : st'.demand = size := by
  generalize hr : (.ok .wait : Except Fault Advance) = r at h
  cases h with
  | requesting | pending => rfl
  | idle _ serves | passed _ _ _ _ _ serves =>
    subst hr
    exact serves.demand
  | @settled _ _ r => cases r <;> cases hr
  | errored | past | adrift | orphaned => cases hr

end ChunkStream

namespace Pull

/-- What a pull that has got to a stream leaves behind: it is over and asks for nothing, or it is
under way and asks for its size. -/
inductive Asks (size : Option Int) (c : Nat) (st : ChunkStream) (s : Store) : Prop where
  | nothing (pulling : st.pulling = false) (demand : st.demand = none)
      (closed : s.coroutineState c = .closed)
  | more (pulling : st.pulling = true) (demand : st.demand = size) (underWay : s.UnderWay c)

/-- A pull that has not got to a stream leaves it and itself as they were. -/
structure Idles (c : Nat) (st st' : ChunkStream) (s s' : Store) : Prop where
  same : st' = st
  underWay : s'.UnderWay c ↔ s.UnderWay c

section

variable {id c : Nat} {size : Option Int} {s s' s₁ : Store} {st st' : ChunkStream} {out : Outcome}
  {p q : Process Store (Except Fault Value)}

/-! ### Stretches -/

theorem underWay_of_suspended {f : Option Nat} (suspended : s.coroutineState c = .suspended f) :
    s.UnderWay c := by
  unfold Store.UnderWay
  rw [suspended]
  exact ⟨nofun, nofun⟩

theorem underWay_of_running (running : s.coroutineState c = .running) : s.UnderWay c := by
  unfold Store.UnderWay
  rw [running]
  exact ⟨nofun, nofun⟩

/-- A coroutine that has ended is closed. -/
theorem closed_of_supervised {r : Except Fault Value}
    {outer : Option Nat} (supervised : p.run s = (superviseCoroutine c outer q).run s₁)
    (run : p.run s = (.done r, s')) :
    s'.coroutineState c = .closed := by
  rw [run, run_superviseCoroutine] at supervised
  split at supervised
  · obtain ⟨-, rfl⟩ := Prod.mk.inj supervised
    exact Store.coroutineState_closed ..
  · cases supervised
  · cases supervised

theorem Goes.asks (h : Goes id size c st s out st' s')
    {outer outer' : Option Nat} (supervised : p.run s = (superviseCoroutine c outer q).run s₁)
    (run : p.run s = (out.halted id size c outer', s')) (leaves : out.Leaves c s s') :
    Asks size c st' s' := by
  cases h with
  | served => exact .nothing rfl rfl (closed_of_supervised supervised run)
  | waits _ advances =>
    exact .more advances.samePull.2 advances.demand (underWay_of_suspended leaves.1)

/-- A pull that waits and asks for its size is resumed. -/
theorem asks_resumption (outer : Option Nat) (w rounds : Nat) (thrown : Option Fault) (h : s.streams[id]? = some st)
    (pulling : st.pulling = true) (demand : st.demand = size) {f : Option Nat}
    (suspended : s.coroutineState c = .suspended f) (calm : st.Calm) :
    ∃ out st' s', Comes id size c { st with waiter := none } s
      (resumption id size c outer w rounds thrown) out st' s' ∧ Asks size c st' s' := by
  have supervised : (resumption id size c outer w rounds thrown).run s = _ :=
    run_resumption outer w rounds thrown suspended
  have running : (s.setCoroutine c .running).coroutineState c = .running :=
    coroutineState_setCoroutine (lt_of_suspended suspended)
  rcases hr : outcome (s.setCoroutine c .running) w thrown with e | _
  · have noticed := upTo_woken (s := s.setCoroutine c .running) h w thrown
    rw [hr] at noticed
    obtain ⟨s'', run, kept, stream', left⟩ :=
      comes_ended (c := c) outer (Run.upTo_bind_error (fun () => pullWithin id size rounds) noticed)
        (streams_resumed h)
    have ended := supervised.trans run
    exact ⟨.ended _, _, s'', ⟨⟨outer, ended⟩, .interrupted (resumed_kept.trans kept), stream', left⟩,
      .nothing rfl rfl (closed_of_supervised supervised ended)⟩
  · have same : (resumption id size c outer w rounds thrown).run s = _ :=
      run_resumption_ok outer w rounds thrown h suspended hr
    have stream := streams_resumed (c := c) h
    cases rounds with
    | zero =>
      have stuck : (serve id (pullWithin id size 0)).run.run (resumed id c s st) =
        (.stuck, resumed id c s st) := upTo_serve_stuck rfl
      have run := same
      rw [run_superviseCoroutine, stuck] at run
      refine ⟨.stuck, _, _, ⟨⟨outer, run⟩, .stuck pulling resumed_kept, stream, fun f => ?_⟩,
        .more pulling demand (underWay_of_running running)⟩
      rw [show (resumed id c s st).coroutineState c = .running from running]
      nofun
    | succ rounds =>
      have free : (resumed id c s st).streams[id]? =
          some { ({ st with waiter := none } : ChunkStream) with waiter := none, pulling := true } := by
        rw [stream, ← pulling]
      obtain ⟨out, st', s', comes, goes⟩ := goes_serve rounds resumed_kept same free running calm
      obtain ⟨_, ran⟩ := comes.run
      exact ⟨out, st', s', comes, goes.asks same ran comes.leaves⟩

/-- A task whose coroutine cannot begin leaves it under way or not. -/
theorem run_taskMain_refused {e : Engine} {thrown : Option Fault}
    (begun : s.coroutineState c = .created → thrown ≠ none)
    (suspended : ∀ f, s.coroutineState c ≠ .suspended f) :
    ∃ fault s', (taskMain e c thrown).upTo s = (.done (.error fault), s') ∧
      s'.streams = s.streams ∧ (s'.UnderWay c ↔ s.UnderWay c) := by
  unfold taskMain
  rw [Run.upTo_bind_ok _ (Run.upTo_get s)]
  rcases state : s.coroutineState c with _ | _ | f | _
  · obtain ⟨fault, rfl⟩ := Option.ne_none_iff_exists'.mp (begun state)
    refine ⟨fault, s.setCoroutine c .closed, rfl, rfl, ?_⟩
    unfold Store.UnderWay
    rw [state, Store.coroutineState_closed]
    simp
  · exact ⟨_, s, rfl, rfl, .rfl⟩
  · exact absurd state (suspended f)
  · exact ⟨_, s, rfl, rfl, .rfl⟩

/-- The task of a pull that does not wait runs. It gets to the stream, or nothing changes. -/
theorem asks_taskMain {k : Coroutine} (thrown : Option Fault) (h : s.streams[id]? = some st)
    (hk : s.coroutines[c]? = some k) (body : k.body = .call id (.pull size))
    (suspended : ∀ f, s.coroutineState c ≠ .suspended f)
    (waiter : st.pulling = false → st.waiter = none) (calm : st.Calm) :
    ∃ out st' s', Comes id size c st s (taskMain mainEngine c thrown).run out st' s' ∧
      (Idles c st st' s s' ∨ st.pulling = false ∧ Asks size c st' s') := by
  have state : s.coroutineState c = k.state := by
    unfold Store.coroutineState
    rw [hk]
    rfl
  by_cases begins : k.state = .created ∧ thrown = none
  · obtain ⟨created, rfl⟩ := begins
    have supervised := upTo_taskMain_created (e := mainEngine) hk created
    rcases pulling : st.pulling with _ | _
    · obtain ⟨out, st', s', comes, goes⟩ :=
        goes_taskMain h hk body created pulling (waiter pulling) calm
      obtain ⟨_, ran⟩ := comes.run
      exact ⟨out, st', s', comes, .inr ⟨rfl, goes.asks supervised ran comes.leaves⟩⟩
    · obtain ⟨out, st', s', comes, busy⟩ := comes_taskMain none h hk body suspended waiter calm
      obtain ⟨rfl, e, rfl⟩ := busy pulling
      obtain ⟨_, ran⟩ := comes.run
      have closed := closed_of_supervised supervised ran
      refine ⟨_, _, s', comes, .inl ⟨rfl, ?_⟩⟩
      unfold Store.UnderWay
      rw [closed, state, created]
      simp
  · obtain ⟨out, st', s', comes, -⟩ := comes_taskMain thrown h hk body suspended waiter calm
    obtain ⟨fault, s₁, refused, streams, same⟩ := run_taskMain_refused (e := mainEngine)
      (fun created none => begins ⟨state ▸ created, none⟩) suspended
    obtain ⟨_, ran⟩ := comes.run
    obtain ⟨-, rfl⟩ := Prod.mk.inj (ran.symm.trans refused)
    have stream := comes.stream
    rw [streams, h] at stream
    exact ⟨out, st', s', comes, .inl ⟨(Option.some.inj stream).symm, same⟩⟩

end

/-! ### Turns -/

section

variable {id : Nat} {a : Call} {l : EventLoop} {st st' : ChunkStream} {s s' : Store}

theorem Tended.underWay (h : Tended a s s') {c : Nat} (lt : c < s.coroutines.size) :
    s'.UnderWay c ↔ s.UnderWay c := by
  have same := h.spares.coroutineState lt trivial
  exact ⟨fun on => on.congr same.symm, fun on => on.congr same⟩

/-- What a pull leaves behind is not touched by its task. -/
theorem Asks.tended {size : Option Int} {c : Nat} (h : Asks size c st s) (tended : Tended a s s')
    (lt : c < s.coroutines.size) : Asks size c st s' := by
  cases h with
  | nothing pulling demand closed =>
    exact .nothing pulling demand ((tended.spares.coroutineState lt trivial).trans closed)
  | more pulling demand on => exact .more pulling demand ((tended.underWay lt).mpr on)

/-- A turn of a call that does not wait gets to the stream, or nothing changes. -/
theorem asks_away (placed : a.Placed id l.store) (pending : l.store.isPending a.task)
    (h : l.store.streams[id]? = some st) (calm : st.Calm)
    (waiter : st.pulling = false → st.waiter = none) (away : a.Away l) (thrown : Option Fault) :
    ∃ st', (l.stepTask a.task thrown).store.streams[id]? = some st' ∧
      (Idles a.coroutine st st' l.store (l.stepTask a.task thrown).store ∨
        st.pulling = false ∧ Asks a.size a.coroutine st' (l.stepTask a.task thrown).store) := by
  obtain ⟨τ, task, coroutine⟩ := placed.task
  obtain ⟨k, hk, body⟩ := placed.coroutine
  obtain ⟨out, st', s', comes, left⟩ := asks_taskMain (s := EventLoop.enterTask a.task τ l.store)
    (EventLoop.thrownInto τ thrown) h hk body away.coroutine waiter calm
  rw [← process_of_none away.lookup coroutine] at comes
  obtain ⟨turn, after⟩ := turn_of_comes thrown pending task comes
  have lt : a.coroutine < s'.coroutines.size :=
    Nat.lt_of_lt_of_le placed.lt_coroutines comes.stretch.spares.2.coroutines
  refine ⟨st', turn.stream, left.imp (fun idles => ?_) fun ⟨free, asks⟩ => ⟨free, asks.tended after lt⟩⟩
  exact ⟨idles.same, (after.underWay lt).trans idles.underWay⟩

/-- A turn of the call that waits gets to the stream. -/
theorem asks_paused {w rounds : Nat} (placed : a.Placed id l.store)
    (pending : l.store.isPending a.task) (h : l.store.streams[id]? = some st) (calm : st.Calm)
    (pulling : st.pulling = true) (demand : st.demand = a.size) (paused : a.Paused id w rounds l)
    (thrown : Option Fault) :
    ∃ st', (l.stepTask a.task thrown).store.streams[id]? = some st' ∧
      Asks a.size a.coroutine st' (l.stepTask a.task thrown).store := by
  obtain ⟨τ, task, -⟩ := placed.task
  obtain ⟨outer, lookup⟩ := paused.lookup
  obtain ⟨out, st', s', comes, asks⟩ := asks_resumption (s := EventLoop.enterTask a.task τ l.store)
    outer w rounds (EventLoop.thrownInto τ thrown) h pulling demand paused.coroutine calm
  rw [← process_of_some lookup τ] at comes
  obtain ⟨turn, after⟩ := turn_of_comes thrown pending task comes
  have lt : a.coroutine < s'.coroutines.size :=
    Nat.lt_of_lt_of_le placed.lt_coroutines comes.stretch.spares.2.coroutines
  exact ⟨st', turn.stream, asks.tended after lt⟩

end

end Pull

end StreamTemplate
