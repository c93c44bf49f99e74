import StreamTemplate.Loop.Run
import StreamTemplate.Proofs.Loop.Process
import StreamTemplate.Proofs.Stream.Apart

/-!
# What a pull does

A pull is a coroutine that goes as far as it can, waits for a future of its own and begins again. Its
code is followed here from one wait to the next: `Pull.resumption` is what is left of a pull that
waits, and `Pull.Passes` lists what a stretch of its code can come to.
-/

namespace StreamTemplate

namespace Store

/-- The store with another stream in the place of one. -/
def setStream (s : Store) (id : Nat) (st : ChunkStream) : Store :=
  { s with streams := s.streams.setIfInBounds id st }

theorem streams_setStream {s : Store} {id : Nat} (st : ChunkStream) (lt : id < s.streams.size) :
    (s.setStream id st).streams[id]? = some st := by
  show (s.streams.setIfInBounds id st)[id]? = _
  rw [Array.getElem?_setIfInBounds, if_pos rfl, if_pos lt]

theorem setStream_self {s : Store} {id : Nat} {st : ChunkStream} (h : s.streams[id]? = some st) :
    s.setStream id st = s := by
  have same : s.streams.setIfInBounds id st = s.streams := by
    refine Array.ext_getElem? fun i => ?_
    rw [Array.getElem?_setIfInBounds]
    split
    · next here =>
      subst here
      rw [h, if_pos (Array.getElem?_eq_some_iff.mp h).1]
    · rfl
  unfold setStream
  rw [same]

theorem setStream_setStream (s : Store) (id : Nat) (st st' : ChunkStream) :
    (s.setStream id st).setStream id st' = s.setStream id st' := by
  unfold setStream
  rw [Array.setIfInBounds_setIfInBounds]

theorem onStream_eq {α : Type} (id : Nat)
    (op : Surroundings (StateM Store) → StreamM (StateM Store) α) (s : Store) :
    (onStream id op).run s = (match s.streams[id]? with
      | none => Act.fail (.noAttribute "NoneType" "push")
      | some stream => do
        let (result, stream) ← Act.always ((op (surroundings id)).run.run stream)
        modify fun s => { s with streams := s.streams.setIfInBounds id stream }
        Act.ofExcept result : Act α).run s := rfl

theorem run_onStream {α : Type} {s : Store} {id : Nat} {st : ChunkStream}
    (op : Surroundings (StateM Store) → StreamM (StateM Store) α) (h : s.streams[id]? = some st) :
    (onStream id op).run s =
      (((op (surroundings id)).does st s).1,
        ((op (surroundings id)).does st s).2.2.setStream id ((op (surroundings id)).does st s).2.1) := by
  rw [onStream_eq, h]
  rfl

end Store

namespace Run

variable {α : Type}

theorem upTo_onStream {s : Store} {id : Nat} {st st' : ChunkStream} {r : Except Fault α}
    {s' : Store} {op : Surroundings (StateM Store) → StreamM (StateM Store) α}
    (h : s.streams[id]? = some st) (does : (op (Store.surroundings id)).does st s = (r, st', s')) :
    (act (Store.onStream id op)).upTo s = (.done r, s'.setStream id st') := by
  have run := Store.run_onStream op h
  rw [does] at run
  rw [upTo_act, run]

end Run

namespace Pull

open ChunkStream (Advance Advances Attentive)

variable (id : Nat) (size : Option Int) (c : Nat)

/-- What is left of a wait for the future `w` once something is thrown into it or not. -/
def woken (w : Nat) (thrown : Option Fault) : Run Unit :=
  Run.ensuring
    (discard do
      let () ← Run.ofExcept (thrown.elim (.ok ()) .error)
      Run.ofExcept ((← Run.act get).progress w).deliver)
    (Run.act (Store.onStream id fun _ => ChunkStream.setWaiter none))

/-- Serves a consumer's call by the rounds of a pull that has begun. -/
def serve (rounds : Run (Option Value)) : Run Value := do
  let chunk ← Run.attempt (Run.ensuring rounds
    (Run.act (Store.onStream id fun _ => ChunkStream.endPull)))
  return (← Run.ofExcept (chunk.mapError leavingCoroutine)).getD .none

/-- What is left of a pull that waits for the future `w`. -/
def rest (w rounds : Nat) (thrown : Option Fault) : Run Value :=
  serve id do
    woken id w thrown
    pullWithin id size rounds

/-- What the coroutine of a pull that waits for the future `w` is resumed with. The render context
`outer` was current when it began. -/
def resumption (outer : Option Nat) (w rounds : Nat) : Continuation := fun thrown =>
  .act get fun s =>
    if s.coroutineState c = .closed then
      .act (Store.setContext outer) fun () => .done (.error spent)
    else .act (modify (·.setCoroutine c .running)) fun () =>
      superviseCoroutine c outer (rest id size w rounds thrown).run

theorem consume_pull :
    consume id (.pull size) = (do
      Run.act (Store.onStream id fun _ => ChunkStream.beginPull)
      serve id (pullWithin id size patience)) := by
  unfold consume pull serve
  simp only [bind_assoc]

section

variable {id size c} {s s' : Store} {st : ChunkStream} {w : Nat}

theorem upTo_awaitFuture {s : Store} {w : Nat} (pending : s.isPending w)
    (unclaimed : s.isClaimed w = false) :
    (awaitFuture w).upTo s = (.waiting (.future w) fun thrown => (do
      let () ← Run.ofExcept (thrown.elim (.ok ()) .error)
      Run.ofExcept ((← Run.act get).progress w).deliver : Run Value).run, s) := by
  unfold awaitFuture
  rw [Run.upTo_bind_ok _ (Run.upTo_get s), if_pos pending, unclaimed]
  exact Run.upTo_bind_waiting _ (Run.upTo_wait _ s)

/-- The store once a pull of a stream waits for a future of its own. -/
def waitingOn (id : Nat) (s : Store) (st : ChunkStream) : Store :=
  (Store.newFuture.run s).2.setStream id { st with waiter := some s.futures.size }

theorem isPending_newFuture (s : Store) :
    (Store.newFuture.run s).2.isPending s.futures.size ∧
      (Store.newFuture.run s).2.isClaimed s.futures.size = false := by
  have fresh : (Store.newFuture.run s).2.futures[s.futures.size]? = some {} :=
    Array.getElem?_push_size
  rw [Store.isPending_iff, Store.progress_of_some fresh, Store.isClaimed, fresh]
  exact ⟨rfl, rfl⟩

theorem task?_newFuture (s : Store) : (Store.newFuture.run s).2.task? s.futures.size = none := by
  have fresh : (Store.newFuture.run s).2.futures[s.futures.size]? = some {} :=
    Array.getElem?_push_size
  unfold Store.task?
  rw [fresh]
  rfl

theorem upTo_awaitWake (h : s.streams[id]? = some st) :
    (awaitWake id).upTo s = (.waiting (.future s.futures.size) fun thrown =>
      (woken id s.futures.size thrown).run, waitingOn id s st) := by
  obtain ⟨pending, unclaimed⟩ := isPending_newFuture s
  have created : (Run.act (Act.always Store.newFuture)).upTo s =
    (.done (.ok s.futures.size), (Store.newFuture.run s).2) := rfl
  unfold awaitWake
  rw [Run.upTo_bind_ok _ created]
  have noted : (Run.act (Store.onStream id fun _ => ChunkStream.setWaiter (some s.futures.size))).upTo
      (Store.newFuture.run s).2 = (.done (.ok ()), waitingOn id s st) := Run.upTo_onStream h rfl
  rw [Run.upTo_bind_ok _ noted]
  refine Run.upTo_ensuring_waiting ?_
  simp only [Run.discard_eq]
  exact Run.upTo_bind_waiting _ (upTo_awaitFuture pending unclaimed)

/-- Where a pull stops that has come this far. -/
def stops (id : Nat) (size : Option Int) (rounds : Nat) (st : ChunkStream) (s : Store) :
    Except Fault Advance → Halted Store (Except Fault (Option Value)) × Store
  | .error e => (.done (.error e), s.setStream id st)
  | .ok (.chunk v) => (.done (.ok (some v)), s.setStream id st)
  | .ok .ended => (.done (.ok none), s.setStream id st)
  | .ok .wait =>
    (.waiting (.future s.futures.size) fun thrown => (do
        woken id s.futures.size thrown
        pullWithin id size rounds : Run (Option Value)).run,
      waitingOn id (s.setStream id st) st)

theorem upTo_pullWithin {r : Except Fault Advance} {st' : ChunkStream} (rounds : Nat)
    (h : s.streams[id]? = some st) (lt : id < s'.streams.size)
    (advance : (ChunkStream.advance (Store.surroundings id) size).does st s = (r, st', s')) :
    (pullWithin id size (rounds + 1)).upTo s = stops id size rounds st' s' r := by
  have advanced : (Run.act (Store.onStream id fun host => ChunkStream.advance host size)).upTo s =
    (.done r, s'.setStream id st') := Run.upTo_onStream h advance
  rw [pullWithin]
  rcases r with e | (v | _ | _)
  · exact Run.upTo_bind_error _ advanced
  · exact Run.upTo_bind_ok _ advanced
  · exact Run.upTo_bind_ok _ advanced
  · rw [Run.upTo_bind_ok _ advanced]
    exact Run.upTo_bind_waiting _ (upTo_awaitWake (Store.streams_setStream st' lt))

/-- What becomes of a wait that is over. -/
def outcome (s : Store) (w : Nat) : Option Fault → Except Fault Unit
  | some fault => .error fault
  | none => (s.progress w).deliver.map fun _ => ()

theorem upTo_woken (h : s.streams[id]? = some st) (w : Nat) (thrown : Option Fault) :
    (woken id w thrown).upTo s =
      (.done (outcome s w thrown), s.setStream id { st with waiter := none }) := by
  unfold woken
  refine Run.upTo_ensuring_done ?_ (Run.upTo_onStream h rfl)
  rw [Run.discard_eq]
  cases thrown with
  | some fault => rfl
  | none =>
    have taken : (do
        let () ← Run.ofExcept ((none : Option Fault).elim (.ok ()) .error)
        Run.ofExcept ((← Run.act get).progress w).deliver : Run Value).upTo s =
      (.done (s.progress w).deliver, s) := rfl
    unfold outcome
    cases hd : (s.progress w).deliver with
    | error fault =>
      rw [hd] at taken
      exact Run.upTo_bind_error _ taken
    | ok v =>
      rw [hd] at taken
      exact Run.upTo_bind_ok _ taken

theorem upTo_serve_done {rounds : Run (Option Value)} {r : Except Fault (Option Value)}
    (ended : rounds.upTo s = (.done r, s')) (h : s'.streams[id]? = some st) :
    (serve id rounds).upTo s =
      (.done ((r.mapError leavingCoroutine).map (·.getD .none)),
        s'.setStream id { st with pulling := false, demand := none }) := by
  unfold serve
  rw [Run.upTo_bind_ok _ (Run.upTo_attempt_done
    (Run.upTo_ensuring_done ended (Run.upTo_onStream h rfl)))]
  cases r <;> rfl

theorem upTo_serve_stuck {rounds : Run (Option Value)} (stuck : rounds.upTo s = (.stuck, s')) :
    (serve id rounds).upTo s = (.stuck, s') :=
  Run.upTo_bind_stuck _ (Run.upTo_attempt_stuck (Run.upTo_ensuring_stuck stuck))

theorem upTo_serve_waiting {rounds : Run (Option Value)} {w : Wait}
    {k : Option Fault → Run (Option Value)}
    (waiting : rounds.upTo s = (.waiting w fun thrown => (k thrown).run, s')) :
    (serve id rounds).upTo s = (.waiting w fun thrown => (serve id (k thrown)).run, s') :=
  Run.upTo_bind_waiting _ (Run.upTo_attempt_waiting (Run.upTo_ensuring_waiting waiting))

theorem run_superviseCoroutine (outer : Option Nat) (p : Process Store (Except Fault Value))
    (s : Store) : (superviseCoroutine c outer p).run s =
      match p.run s with
      | (.done r, s') => (.done (r.mapError leavingCoroutine), s'.setCoroutine c .closed)
      | (.stuck, s') => (.stuck, s')
      | (.waiting w k, s') =>
        (.waiting w fun thrown => .act get fun s =>
            if s.coroutineState c = .closed then
              .act (Store.setContext outer) fun () => .done (.error spent)
            else .act (modify (·.setCoroutine c .running)) fun () =>
              superviseCoroutine c outer (k thrown),
          s'.setCoroutine c (.suspended w.future?)) := by
  induction p generalizing s with
  | done r => rfl
  | stuck => rfl
  | act x k ih => exact ih _ _
  | wait w k ih => rfl

end

/-! ### Stretches of a pull -/

/-- Where a stretch of a pull comes to. -/
inductive Outcome where
  | ended (r : Except Fault Value)
  | stuck
  | waits (w rounds : Nat)

/-- Where the process of a pull stops. -/
def Outcome.halted (outer : Option Nat) : Outcome → Halted Store (Except Fault Value)
  | ended r => .done r
  | stuck => .stuck
  | waits w rounds => .waiting (.future w) (resumption id size c outer w rounds)

/-- How the coroutine of a pull is left behind, and the future that it waits for. -/
def Outcome.Leaves (s s' : Store) : Outcome → Prop
  | ended _ | stuck => ∀ f, s'.coroutineState c ≠ .suspended f
  | waits w _ => s'.coroutineState c = .suspended (some w) ∧ s.futures.size ≤ w ∧ s'.isPending w ∧
      s'.task? w = none

/-- From `s` to `s'` nothing but streams and the coroutine `c` changes; there may be more futures, but
no more tasks. -/
structure Kept (s s' : Store) : Prop where
  heap : s'.heap = s.heap
  spares : s.Spares (fun _ => True) (fun _ => True) (· ≠ c) s'
  begun : s.begun s' = []
  leaves : s.Leaves s'

/-- How an advance that need not wait ends a pull. -/
inductive Ends : Except Fault Advance → Except Fault Value → Prop where
  | fault {e} : Ends (.error e) (.error (leavingCoroutine e))
  | chunk {v} : Ends (.ok (.chunk v)) (.ok v)
  | past : Ends (.ok .ended) (.ok .none)

/-- What a stretch of a pull does to the stream and the store. -/
inductive Stretch (st : ChunkStream) (s : Store) : Outcome → ChunkStream → Store → Prop where
  | refused {e s'} (kept : Kept c s s') : Stretch st s (.ended (.error e)) st s'
  | interrupted {e s'} (kept : Kept c s s') :
      Stretch st s (.ended (.error e))
        { st with waiter := none, pulling := false, demand := none } s'
  | stuck {s'} (pulling : st.pulling = true) (kept : Kept c s s') :
      Stretch st s .stuck { st with waiter := none } s'
  | served {s₁ r r' st₂ s₂ s'} (before : Kept c s s₁)
      (advances : Advances id size { st with waiter := none, pulling := true } s₁ r st₂ s₂)
      (ends : Ends r r') (after : Kept c s₂ s') :
      Stretch st s (.ended r') { st₂ with pulling := false, demand := none } s'
  | waits {s₁ st₂ s₂ s' rounds} (before : Kept c s s₁)
      (advances : Advances id size { st with waiter := none, pulling := true } s₁ (.ok .wait) st₂ s₂)
      (after : Kept c s₂ s') :
      Stretch st s (.waits s₂.futures.size rounds) { st₂ with waiter := some s₂.futures.size } s'

/-- What a stretch of a pull that gets to the stream does: it goes as far as it can. -/
inductive Goes (st : ChunkStream) (s : Store) : Outcome → ChunkStream → Store → Prop where
  | served {s₁ r r' st₂ s₂ s'} (before : Kept c s s₁)
      (advances : Advances id size { st with waiter := none, pulling := true } s₁ r st₂ s₂)
      (ends : Ends r r') (after : Kept c s₂ s') :
      Goes st s (.ended r') { st₂ with pulling := false, demand := none } s'
  | waits {s₁ st₂ s₂ s' rounds} (before : Kept c s s₁)
      (advances : Advances id size { st with waiter := none, pulling := true } s₁ (.ok .wait) st₂ s₂)
      (after : Kept c s₂ s') :
      Goes st s (.waits s₂.futures.size rounds) { st₂ with waiter := some s₂.futures.size } s'

/-- The code of a pull comes to an outcome. -/
structure Comes (st : ChunkStream) (s : Store) (p : Process Store (Except Fault Value))
    (out : Outcome) (st' : ChunkStream) (s' : Store) : Prop where
  run : ∃ outer, p.run s = (out.halted id size c outer, s')
  stretch : Stretch id size c st s out st' s'
  stream : s'.streams[id]? = some st'
  leaves : out.Leaves c s s'

section

variable {id size c} {s s' s'' : Store} {st st' : ChunkStream}

namespace Kept

theorem refl (s : Store) : Kept c s s :=
  ⟨rfl, .refl s, Store.begun_of_size rfl, .refl s⟩

theorem trans (h : Kept c s s') (h' : Kept c s' s'') : Kept c s s'' where
  heap := h'.heap.trans h.heap
  spares := h.spares.trans h'.spares
  begun := by rw [h.spares.begun_trans h'.spares, h.begun, h'.begun, List.nil_append]
  leaves := h.leaves.trans h'.leaves

theorem setStream (s : Store) (id : Nat) (st : ChunkStream) : Kept c s (s.setStream id st) :=
  ⟨rfl, .of_same rfl rfl rfl, Store.begun_of_size rfl, .of_same rfl rfl⟩

theorem setCoroutine (s : Store) (state : CoroutineState) : Kept c s (s.setCoroutine c state) :=
  ⟨rfl, Store.spares_setCoroutine state s fun h => h rfl, Store.begun_of_size rfl, .of_same rfl rfl⟩

theorem newFuture (s : Store) : Kept c s (Store.newFuture.run s).2 :=
  ⟨rfl, Store.spares_newFuture s, Store.begun_newFuture s, .of_same rfl rfl⟩

end Kept

/-- The stream knows what the pull waits for. -/
def Outcome.Holds (st : ChunkStream) : Outcome → Prop
  | ended _ | stuck => st.waiter = none
  | waits w _ => st.waiter = some w ∧ st.pulling = true

theorem Stretch.holds {out : Outcome} (h : Stretch id size c st s out st' s')
    (waiter : st.waiter = none) : out.Holds st' := by
  cases h with
  | refused => exact waiter
  | interrupted | stuck => rfl
  | served _ advances => exact advances.samePull.1
  | waits _ advances => exact ⟨rfl, advances.samePull.2⟩

/-- A stretch of a pull spares everything but its stream, its coroutine and what is queued. -/
theorem Stretch.spares {out : Outcome} (h : Stretch id size c st s out st' s') :
    s'.heap = s.heap ∧ s.Spares (· ≠ .stream id) (fun _ => True)
      (fun k => k ≠ c ∧ .process .coroutine k ∉ st.queued) s' := by
  have mild {s s'} (kept : Kept c s s') : s.Spares (· ≠ .stream id) (fun _ => True)
      (fun k => k ≠ c ∧ .process .coroutine k ∉ st.queued) s' :=
    kept.spares.mono (fun _ _ => trivial) (fun _ _ => trivial) fun _ hk => hk.1
  have apart {s s' st₂ r} (advances : Advances id size { st with waiter := none, pulling := true } s r
      st₂ s') : s'.heap = s.heap ∧ s.Spares (· ≠ .stream id) (fun _ => True)
      (fun k => k ≠ c ∧ .process .coroutine k ∉ st.queued) s' := by
    have apart := advances.apart rfl
    exact ⟨apart.heap, apart.spares.mono (fun _ hx => hx) (fun _ hw => hw) fun _ hk => hk.2⟩
  cases h with
  | refused kept | interrupted kept | stuck _ kept => exact ⟨kept.heap, mild kept⟩
  | served before advances _ after | waits before advances after =>
    obtain ⟨heap, spares⟩ := apart advances
    exact ⟨(after.heap.trans heap).trans before.heap, ((mild before).trans spares).trans (mild after)⟩

/-- A stretch leaves the stream in a state that a pull can go on from. -/
structure Sound (id : Nat) (st st' : ChunkStream) (s' : Store) : Prop where
  queued : st'.queued ⊆ st.queued
  calm : st'.Calm
  attentive : Attentive id st' s'

theorem Stretch.sound {out : Outcome} (h : Stretch id size c st s out st' s') (calm : st.Calm)
    (attentive : Attentive id st s) : Sound id st st' s' := by
  have unchanged {s s' : Store} {st : ChunkStream} (kept : Kept c s s')
      (attentive : Attentive id st s) : Attentive id st s' := attentive.spared kept.spares trivial
  cases h with
  | refused kept | interrupted kept | stuck _ kept =>
    exact ⟨List.Subset.refl _, calm, unchanged kept attentive⟩
  | served before advances _ after | waits before advances after =>
    have asked := unchanged before attentive
    exact ⟨advances.queued, advances.calm calm, unchanged after (advances.attentive calm asked)⟩

/-- A pull waits for a future that is new, and has a reason to. -/
theorem Stretch.alert {w rounds : Nat} (h : Stretch id size c st s (.waits w rounds) st' s')
    (calm : st.Calm) (attentive : Attentive id st s) : s.futures.size ≤ w ∧ st'.Alert id s' := by
  cases h with
  | waits before advances after =>
    have spares := before.spares.futures
    have asked : Attentive id st _ := attentive.spared before.spares trivial
    refine ⟨Nat.le_trans spares (advances.apart rfl).spares.futures, ?_⟩
    exact (advances.alert calm asked).spared fun w _ => after.spares.told _ _ trivial

/-- A pull that leaves the stream to another one has done nothing. -/
theorem Stretch.kept {r : Except Fault Value} (h : Stretch id size c st s (.ended r) st' s')
    (pulling : st'.pulling = true) : Kept c s s' := by
  cases h with
  | refused kept => exact kept
  | interrupted | served => cases pulling

theorem waitingOn_kept : Kept c s (waitingOn id s st) :=
  (Kept.newFuture s).trans (.setStream ..)

theorem coroutineState_setCoroutine {state : CoroutineState} (lt : c < s.coroutines.size) :
    (s.setCoroutine c state).coroutineState c = state := by
  unfold Store.coroutineState Store.setCoroutine
  simp only [Array.getElem?_modify, if_true, Array.getElem?_eq_getElem lt]
  rfl

theorem not_suspended_of_closed (f : Option Nat) :
    (s.setCoroutine c .closed).coroutineState c ≠ .suspended f := by
  by_cases lt : c < s.coroutines.size
  · rw [coroutineState_setCoroutine lt]
    nofun
  · have none : (s.setCoroutine c .closed).coroutines[c]? = none := by
      refine Array.getElem?_eq_none ?_
      show (s.coroutines.modify c _).size ≤ c
      rw [Array.size_modify]
      exact Nat.le_of_not_lt lt
    unfold Store.coroutineState
    rw [none]
    nofun

theorem lt_of_running (h : s.coroutineState c = .running) : c < s.coroutines.size := by
  refine Nat.lt_of_not_le fun ge => ?_
  unfold Store.coroutineState at h
  rw [Array.getElem?_eq_none ge] at h
  cases h

theorem Goes.stretch {out : Outcome} (h : Goes id size c st s out st' s') :
    Stretch id size c st s out st' s' := by
  cases h with
  | served before advances ends after => exact .served before advances ends after
  | waits before advances after => exact .waits before advances after

theorem leavingCoroutine_leavingCoroutine (e : Fault) :
    leavingCoroutine (leavingCoroutine e) = leavingCoroutine e := by
  by_cases stops : e.isA .stopIteration
  · rw [leavingCoroutine, leavingCoroutine, if_pos stops]
    rfl
  · rw [leavingCoroutine, leavingCoroutine, if_neg stops, if_neg stops]

/-- A pull that has begun is over. -/
theorem comes_ended (outer : Option Nat) {rounds : Run (Option Value)}
    {r : Except Fault (Option Value)} (ended : rounds.upTo s = (.done r, s'))
    (h : s'.streams[id]? = some st) :
    ∃ s'', (superviseCoroutine c outer (serve id rounds).run).run s =
        (.done ((r.mapError leavingCoroutine).map (·.getD .none)), s'') ∧ Kept c s' s'' ∧
      s''.streams[id]? = some { st with pulling := false, demand := none } ∧
      ∀ f, s''.coroutineState c ≠ .suspended f := by
  have served := upTo_serve_done ended h
  have lt := (Array.getElem?_eq_some_iff.mp h).1
  have run := run_superviseCoroutine (c := c) outer (serve id rounds).run s
  unfold Run.upTo at served
  rw [served] at run
  have once : ((r.mapError leavingCoroutine).map (·.getD Value.none)).mapError leavingCoroutine =
      (r.mapError leavingCoroutine).map (·.getD .none) := by
    cases r with
    | error e => exact congrArg Except.error (leavingCoroutine_leavingCoroutine e)
    | ok v => rfl
  exact ⟨_, run.trans (congrArg (fun r => (Halted.done r, _)) once), (Kept.setStream ..).trans (.setCoroutine ..),
    Store.streams_setStream _ lt, not_suspended_of_closed⟩

/-- A pull that has begun and has rounds to go gets to the stream. -/
theorem goes_serve {outer : Option Nat} {p : Process Store (Except Fault Value)} {s₀ : Store}
    (rounds : Nat) (before : Kept c s₀ s)
    (same : p.run s₀ =
      (superviseCoroutine c outer (serve id (pullWithin id size (rounds + 1))).run).run s)
    (h : s.streams[id]? = some { st with waiter := none, pulling := true })
    (running : s.coroutineState c = .running) (calm : st.Calm) :
    ∃ out st' s', Comes id size c st s₀ p out st' s' ∧ Goes id size c st s₀ out st' s' := by
  obtain ⟨r, st', s', does⟩ : ∃ r st' s', (ChunkStream.advance (Store.surroundings id) size).does
    { st with waiter := none, pulling := true } s = (r, st', s') := ⟨_, _, _, rfl⟩
  have advances := ChunkStream.advances_of_does id size { st with waiter := none, pulling := true } s
    calm does
  have apart := advances.apart rfl
  have lt : id < s'.streams.size := by
    rw [apart.streams]
    exact (Array.getElem?_eq_some_iff.mp h).1
  have rounded := upTo_pullWithin rounds h lt does
  have stream := Store.streams_setStream st' lt
  rcases r with e | (v | _ | _)
  · obtain ⟨s'', run, kept, stream', left⟩ := comes_ended (c := c) outer rounded stream
    have goes : Goes id size c st s₀ _ _ s'' :=
      .served before advances .fault ((Kept.setStream ..).trans kept)
    exact ⟨.ended _, _, s'', ⟨⟨outer, same.trans run⟩, goes.stretch, stream', left⟩, goes⟩
  · obtain ⟨s'', run, kept, stream', left⟩ := comes_ended (c := c) outer rounded stream
    have goes : Goes id size c st s₀ _ _ s'' :=
      .served before advances .chunk ((Kept.setStream ..).trans kept)
    exact ⟨.ended _, _, s'', ⟨⟨outer, same.trans run⟩, goes.stretch, stream', left⟩, goes⟩
  · obtain ⟨s'', run, kept, stream', left⟩ := comes_ended (c := c) outer rounded stream
    have goes : Goes id size c st s₀ _ _ s'' :=
      .served before advances .past ((Kept.setStream ..).trans kept)
    exact ⟨.ended _, _, s'', ⟨⟨outer, same.trans run⟩, goes.stretch, stream', left⟩, goes⟩
  · have waiting : (serve id (pullWithin id size (rounds + 1))).upTo s = _ :=
      upTo_serve_waiting rounded
    unfold Run.upTo at waiting
    rw [run_superviseCoroutine, waiting] at same
    have goes : Goes id size c st s₀ (.waits s'.futures.size rounds) _
        ((waitingOn id (s'.setStream id st') st').setCoroutine c
          (.suspended (some s'.futures.size))) :=
      .waits before advances
        ((Kept.setStream s' id st').trans (waitingOn_kept.trans (.setCoroutine ..)))
    refine ⟨.waits s'.futures.size rounds, _, _, ⟨⟨outer, same⟩, goes.stretch, ?_, ?_⟩, goes⟩
    · refine Store.streams_setStream _ ?_
      show id < (s'.streams.setIfInBounds id st').size
      rwa [Array.size_setIfInBounds]
    · have bound : c < s'.coroutines.size :=
        Nat.lt_of_lt_of_le (lt_of_running running) apart.spares.coroutines
      exact ⟨coroutineState_setCoroutine bound,
        Nat.le_trans before.spares.futures apart.spares.futures, (isPending_newFuture s').1,
        task?_newFuture s'⟩

/-- A pull that has waited goes round. -/
theorem comes_serve {outer : Option Nat} {p : Process Store (Except Fault Value)} {s₀ : Store}
    (rounds : Nat) (before : Kept c s₀ s)
    (same : p.run s₀ = (superviseCoroutine c outer (serve id (pullWithin id size rounds)).run).run s)
    (h : s.streams[id]? = some { st with waiter := none }) (pulling : st.pulling = true)
    (running : s.coroutineState c = .running) (calm : st.Calm) :
    ∃ out st' s', Comes id size c st s₀ p out st' s' := by
  cases rounds with
  | zero =>
    have stuck : (serve id (pullWithin id size 0)).run.run s = (.stuck, s) := upTo_serve_stuck rfl
    rw [run_superviseCoroutine, stuck] at same
    exact ⟨.stuck, _, s, ⟨outer, same⟩, .stuck pulling before, h, fun f => by rw [running]; nofun⟩
  | succ rounds =>
    obtain ⟨out, st', s', comes, -⟩ :=
      goes_serve rounds before same (by rw [h, ← pulling]) running calm
    exact ⟨out, st', s', comes⟩

theorem upTo_serve_congr (id : Nat) {x y : Run (Option Value)} (h : x.upTo s = y.upTo s') :
    (serve id x).upTo s = (serve id y).upTo s' :=
  Run.upTo_bind_congr _ (Run.upTo_attempt_congr (Run.upTo_bind_congr _ (Run.upTo_attempt_congr h)))

/-- A pull that waits is resumed. -/
theorem run_resumption (outer : Option Nat) (w rounds : Nat) (thrown : Option Fault) {f : Option Nat}
    (suspended : s.coroutineState c = .suspended f) :
    (resumption id size c outer w rounds thrown).run s =
      (superviseCoroutine c outer (rest id size w rounds thrown).run).run
        (s.setCoroutine c .running) := by
  show Process.run (if s.coroutineState c = .closed then _ else _) s = _
  rw [if_neg (by rw [suspended]; nofun)]
  rfl

theorem lt_of_suspended {f : Option Nat} (suspended : s.coroutineState c = .suspended f) :
    c < s.coroutines.size := by
  refine Nat.lt_of_not_le fun ge => ?_
  unfold Store.coroutineState at suspended
  rw [Array.getElem?_eq_none ge] at suspended
  cases suspended

/-- The store once a pull that waited is resumed. -/
def resumed (id c : Nat) (s : Store) (st : ChunkStream) : Store :=
  (s.setCoroutine c .running).setStream id { st with waiter := none }

theorem resumed_kept : Kept c s (resumed id c s st) :=
  (Kept.setCoroutine ..).trans (.setStream ..)

/-- A pull whose wait is over goes on where it began. -/
theorem run_resumption_ok (outer : Option Nat) (w rounds : Nat) (thrown : Option Fault)
    (h : s.streams[id]? = some st) {f : Option Nat}
    (suspended : s.coroutineState c = .suspended f)
    (noticed : outcome (s.setCoroutine c .running) w thrown = .ok ()) :
    (resumption id size c outer w rounds thrown).run s =
      (superviseCoroutine c outer (serve id (pullWithin id size rounds)).run).run
        (resumed id c s st) := by
  have woke := upTo_woken (s := s.setCoroutine c .running) h w thrown
  rw [noticed] at woke
  rw [run_resumption outer w rounds thrown suspended, run_superviseCoroutine, run_superviseCoroutine]
  have served := upTo_serve_congr id (Run.upTo_bind_ok (fun () => pullWithin id size rounds) woke)
  unfold Run.upTo at served
  rw [rest, served]
  rfl

theorem streams_resumed (h : s.streams[id]? = some st) :
    (resumed id c s st).streams[id]? = some { st with waiter := none } :=
  Store.streams_setStream _ (Array.getElem?_eq_some_iff.mp h).1

/-- A pull that waits is resumed, and waits no longer. -/
theorem comes_resumption (outer : Option Nat) (w rounds : Nat) (thrown : Option Fault)
    (h : s.streams[id]? = some st) (pulling : st.pulling = true) {f : Option Nat}
    (suspended : s.coroutineState c = .suspended f)
    (calm : st.Calm) :
    ∃ out st' s', Comes id size c { st with waiter := none } s
      (resumption id size c outer w rounds thrown) out st' s' := by
  rcases hr : outcome (s.setCoroutine c .running) w thrown with e | _
  · have noticed := upTo_woken (s := s.setCoroutine c .running) h w thrown
    rw [hr] at noticed
    obtain ⟨s'', run, kept, stream', left⟩ :=
      comes_ended (c := c) outer (Run.upTo_bind_error (fun () => pullWithin id size rounds) noticed)
        (streams_resumed h)
    exact ⟨.ended _, _, s'', ⟨outer, (run_resumption outer w rounds thrown suspended).trans run⟩,
      .interrupted (resumed_kept.trans kept), stream', left⟩
  · exact comes_serve rounds resumed_kept (run_resumption_ok outer w rounds thrown h suspended hr)
      (streams_resumed h) pulling (coroutineState_setCoroutine (lt_of_suspended suspended)) calm

/-- A pull whose wait is over gets to the stream if it has rounds to go. -/
theorem goes_resumption (outer : Option Nat) (w rounds : Nat) (h : s.streams[id]? = some st)
    (pulling : st.pulling = true) {f : Option Nat}
    (suspended : s.coroutineState c = .suspended f) {v : Value} (finished : s.progress w = .finished v)
    (calm : st.Calm) :
    ∃ out st' s', Comes id size c { st with waiter := none } s
        (resumption id size c outer w (rounds + 1) none) out st' s' ∧
      Goes id size c { st with waiter := none } s out st' s' := by
  have noticed : outcome (s.setCoroutine c .running) w none = .ok () := by
    show Except.map _ (s.progress w).deliver = _
    rw [finished]
    rfl
  exact goes_serve rounds resumed_kept (run_resumption_ok outer w _ none h suspended noticed)
    (by rw [streams_resumed h, ← pulling])
    (coroutineState_setCoroutine (lt_of_suspended suspended)) calm

theorem upTo_taskMain_created {e : Engine} {k : Coroutine} (hk : s.coroutines[c]? = some k)
    (created : k.state = .created) :
    (taskMain e c none).upTo s =
      (superviseCoroutine c s.context (e.body k.body).run).run (s.setCoroutine c .running) := by
  have state : s.coroutineState c = .created := by
    unfold Store.coroutineState
    rw [hk]
    exact created
  unfold taskMain
  rw [Run.upTo_bind_ok _ (Run.upTo_get s), state]
  show (runCoroutine e c).upTo s = _
  unfold runCoroutine
  rw [Run.upTo_bind_ok _ (Run.upTo_get s), hk]
  rfl

/-- A task whose coroutine cannot begin fails. -/
theorem upTo_taskMain_refused {e : Engine} {thrown : Option Fault}
    (begun : s.coroutineState c = .created → thrown ≠ none)
    (suspended : ∀ f, s.coroutineState c ≠ .suspended f) :
    ∃ fault s', (taskMain e c thrown).upTo s = (.done (.error fault), s') ∧ Kept c s s' ∧
      s'.streams = s.streams ∧ ∀ f, s'.coroutineState c ≠ .suspended f := by
  unfold taskMain
  rw [Run.upTo_bind_ok _ (Run.upTo_get s)]
  rcases state : s.coroutineState c with _ | _ | f | _
  · obtain ⟨fault, rfl⟩ := Option.ne_none_iff_exists'.mp (begun state)
    exact ⟨fault, _, rfl, .setCoroutine .., rfl, not_suspended_of_closed⟩
  · exact ⟨_, s, rfl, .refl s, rfl, suspended⟩
  · exact absurd state (suspended f)
  · exact ⟨_, s, rfl, .refl s, rfl, suspended⟩

theorem does_beginPull_free (pulling : st.pulling = false) (s : Store) :
    ChunkStream.beginPull.does st s = (.ok (), { st with pulling := true }, s) := by
  unfold ChunkStream.beginPull
  simp only [StreamM.does_bind, StreamM.does_get, StreamM.andThen_ok, pulling]
  rfl

theorem does_beginPull_busy (pulling : st.pulling = true) (s : Store) :
    ChunkStream.beginPull.does st s = (.error ChunkStream.overlapping, st, s) := by
  unfold ChunkStream.beginPull
  simp only [StreamM.does_bind, StreamM.does_get, StreamM.andThen_ok, pulling]
  rfl

theorem code_call {k : Coroutine} (body : k.body = .call id (.pull size)) :
    mainEngine.body k.body = (do
      Run.act (Store.onStream id fun _ => ChunkStream.beginPull)
      serve id (pullWithin id size patience)) :=
  (congrArg mainEngine.body body).trans (consume_pull id size)

theorem exists_patience_eq : ∃ n, patience = n + 1 :=
  ⟨patience - 1, by decide⟩

/-- The task of a pull begins while no other pull is under way: it gets to the stream. -/
theorem goes_taskMain {k : Coroutine} (h : s.streams[id]? = some st)
    (hk : s.coroutines[c]? = some k) (body : k.body = .call id (.pull size))
    (created : k.state = .created) (free : st.pulling = false) (waiter : st.waiter = none)
    (calm : st.Calm) :
    ∃ out st' s', Comes id size c st s (taskMain mainEngine c none).run out st' s' ∧
      Goes id size c st s out st' s' := by
  have run := upTo_taskMain_created (e := mainEngine) hk created
  rw [code_call body] at run
  let begin : Run Unit := Run.act (Store.onStream id fun _ => ChunkStream.beginPull)
  have begun : begin.upTo (s.setCoroutine c .running) = (.done (.ok ()), _) :=
    Run.upTo_onStream h (does_beginPull_free free _)
  have began : Kept c s ((s.setCoroutine c .running).setStream id { st with pulling := true }) :=
    (Kept.setCoroutine ..).trans (.setStream ..)
  obtain ⟨n, patient⟩ := exists_patience_eq
  have same : (taskMain mainEngine c none).run.run s =
      (superviseCoroutine c s.context (serve id (pullWithin id size (n + 1))).run).run
        ((s.setCoroutine c .running).setStream id { st with pulling := true }) := by
    rw [← patient]
    refine run.trans ?_
    rw [run_superviseCoroutine, run_superviseCoroutine]
    have served := Run.upTo_bind_ok (fun () => serve id (pullWithin id size patience)) begun
    unfold Run.upTo at served
    rw [served]
  have stream := Store.streams_setStream (s := s.setCoroutine c .running)
    { st with pulling := true } (Array.getElem?_eq_some_iff.mp h).1
  exact goes_serve n began same (by rw [stream, ← waiter])
    (coroutineState_setCoroutine (Array.getElem?_eq_some_iff.mp hk).1) calm

/-- The task of a pull that does not wait runs. While another pull is under way it fails. -/
theorem comes_taskMain {k : Coroutine} (thrown : Option Fault) (h : s.streams[id]? = some st)
    (hk : s.coroutines[c]? = some k) (body : k.body = .call id (.pull size))
    (suspended : ∀ f, s.coroutineState c ≠ .suspended f)
    (waiter : st.pulling = false → st.waiter = none)
    (calm : st.Calm) :
    ∃ out st' s', Comes id size c st s (taskMain mainEngine c thrown).run out st' s' ∧
      (st.pulling = true → st' = st ∧ ∃ e, out = .ended (.error e)) := by
  by_cases begins : k.state = .created ∧ thrown = none
  · obtain ⟨created, rfl⟩ := begins
    rcases pulling : st.pulling with _ | _
    · obtain ⟨out, st', s', comes, -⟩ :=
        goes_taskMain h hk body created pulling (waiter pulling) calm
      exact ⟨out, st', s', comes, nofun⟩
    · have run := upTo_taskMain_created (e := mainEngine) hk created
      rw [code_call body] at run
      let begin : Run Unit := Run.act (Store.onStream id fun _ => ChunkStream.beginPull)
      have begun : begin.upTo (s.setCoroutine c .running) = (.done (.error _), _) :=
        Run.upTo_onStream h (does_beginPull_busy pulling _)
      have refused := Run.upTo_bind_error (fun () => serve id (pullWithin id size patience)) begun
      unfold Run.upTo at refused
      rw [run_superviseCoroutine, refused] at run
      have began : Kept c s (s.setCoroutine c .running) := .setCoroutine ..
      exact ⟨.ended (.error _), st, _, ⟨⟨s.context, run⟩,
        .refused (began.trans ((Kept.setStream ..).trans (.setCoroutine ..))),
        Store.streams_setStream _ (Array.getElem?_eq_some_iff.mp h).1, not_suspended_of_closed⟩,
        fun _ => ⟨rfl, _, rfl⟩⟩
  · have state : s.coroutineState c = k.state := by
      unfold Store.coroutineState
      rw [hk]
      rfl
    obtain ⟨fault, s', run, kept, streams, left⟩ := upTo_taskMain_refused (e := mainEngine)
      (fun created none => begins ⟨state ▸ created, none⟩) suspended
    exact ⟨.ended (.error fault), st, s', ⟨⟨s.context, run⟩, .refused kept, by rw [streams, h], left⟩,
      fun _ => ⟨rfl, _, rfl⟩⟩

end

end Pull

end StreamTemplate
