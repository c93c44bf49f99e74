import StreamTemplate.Proofs.Stream.Failing

/-!
# Failure is final

A call that gets to the stream while the next source has failed raises the fault of that source. From
then on the stream is over: whatever happens, it holds the same fault and nothing queued, no call
returns anything, and every call that begins raises the fault again.
-/

namespace StreamTemplate

open Pull (Call Turn Reaches Stretch Goes Kept Tended Outcome outcomeOf)
open ChunkStream (Attentive)

namespace Pull.Call

/-- A call is not over, and is not to be cancelled. -/
structure Live (a : Call) (s : Store) : Prop where
  pending : s.isPending a.task
  uncancelled : a.Uncancelled s

/-- A call has not begun, and what is ready begins it. -/
structure Begins (a : Call) (l : EventLoop) (r : Ready) : Prop extends a.Live l.store where
  created : l.store.coroutineState a.coroutine = .created
  ready : r = .step a.task none

/-- A call waits, and what is ready tells it that its wait is over. -/
structure Wakes (id : Nat) (a : Call) (l : EventLoop) (r : Ready) : Prop extends a.Live l.store where
  paused : ∃ w rounds v, a.Paused id w (rounds + 1) l ∧ l.store.progress w = .finished v ∧
    r = .wake a.task w

/-- What is ready lets a call go on with the stream. -/
def GoesOn (id : Nat) (a : Call) (st : ChunkStream) (l : EventLoop) (r : Ready) : Prop :=
  st.pulling = false ∧ a.Begins l r ∨ a.Wakes id l r

theorem GoesOn.resumes {id : Nat} {a : Call} {st : ChunkStream} {l : EventLoop} {r : Ready}
    (h : a.GoesOn id st l r) : r.Resumes a.task := by
  rcases h with ⟨-, begins⟩ | wakes
  · exact begins.ready ▸ rfl
  · obtain ⟨w, rounds, v, -, -, rfl⟩ := wakes.paused
    rfl

end Pull.Call

namespace ChunkStream

variable {id : Nat} {size : Option Int} {st st' : ChunkStream} {s s' : Store} {fault : Fault}

/-! ### Coming to a source that has failed -/

theorem Meets.pulled (h : st.Meets s fault) {waiter : Option Nat} {demand : Option Int}
    {pulling : Bool} : ({ st with waiter, demand, pulling } : ChunkStream).Meets s fault := by
  cases h with
  | queued phase queue failed => exact .queued phase queue failed
  | active phase inflight active failed => exact .active phase inflight active failed
  | behind phase inflight active kind finished exhausted queue failed =>
    exact .behind phase inflight active kind finished exhausted queue failed

/-- A source that has failed is there until a pull comes to it. -/
theorem Meets.grows (h : st.Meets s fault) (attentive : Attentive id st s) (grows : s.Grows s')
    (heap : s'.heap = s.heap) : st.Meets s' fault := by
  cases h with
  | queued phase queue failed => exact .queued phase queue (Source.fault?_grows failed grows heap)
  | active phase inflight active failed =>
    have same := grows.progress (attentive _ inflight).1 (not_isPending_of_fault? failed)
    exact .active phase inflight active (same ▸ failed)
  | behind phase inflight active kind finished exhausted queue failed =>
    have done : ¬s.isPending _ := (Store.not_isPending_iff ..).mpr (by rw [finished]; nofun)
    have same := grows.progress (attentive _ inflight).1 done
    exact .behind phase inflight active kind (same.trans finished) exhausted queue
      (Source.fault?_grows failed grows heap)

theorem Unhindered.spared {L : Listener → Prop} {T C : Nat → Prop} (h : st.Unhindered s)
    (spares : s.Spares L T C s')
    (spared : ∀ c, .process .coroutine c ∈ st.queued → c < s.coroutines.size ∧ C c) :
    st.Unhindered s' := by
  intro c hc
  obtain ⟨lt, kept⟩ := spared c hc
  rw [spares.coroutineState lt kept]
  exact h c hc

/-- The stream has ended with a fault, and no pull is under way. -/
structure Final (fault : Fault) (st : ChunkStream) : Prop extends st.Errored fault where
  free : st.pulling = false

theorem Errored.pulled (h : st.Errored fault) {waiter : Option Nat} {demand : Option Int}
    {pulling : Bool} : ({ st with waiter, demand, pulling } : ChunkStream).Errored fault :=
  ⟨h.phase, h.fault, h.queue, h.closed⟩

theorem Errored.final (h : st.Errored fault) :
    ({ st with pulling := false, demand := none } : ChunkStream).Final fault :=
  ⟨h.pulled, rfl⟩

theorem Final.alone (h : st.Final fault) : ({ st with waiter := none } : ChunkStream).Final fault :=
  ⟨h.toErrored.pulled, h.free⟩

/-- A pull on a stream that has ended with a fault raises it. -/
theorem Advances.of_errored {r : Except Fault Advance} (h : Advances id size st s r st' s')
    (errored : st.Errored fault) : r = .error fault ∧ st' = st := by
  cases h with
  | errored =>
    rw [errored.fault]
    exact ⟨rfl, rfl⟩
  | past other | idle other | adrift other | requesting other | pending other | orphaned other
  | settled other | passed other => exact nomatch errored.phase.symm.trans other

end ChunkStream

section

variable {id c : Nat} {size : Option Int} {l l' : EventLoop} {g g' : Ledger} {a : Call}
  {st st' : ChunkStream} {s s' : Store} {out : Outcome} {fault : Fault}

/-- A stretch of a pull that comes to a source that has failed raises the fault of the source. -/
theorem Pull.Goes.of_meets (h : Goes id size c st s out st' s') (meets : st.Meets s fault)
    (attentive : Attentive id st s) (free : st.Unhindered s)
    (others : ∀ k, .process .coroutine k ∈ st.queued → k < s.coroutines.size ∧ k ≠ c) :
    out = .ended (.error (leavingCoroutine fault)) ∧ st'.Final fault := by
  have raises {s₁ s₂ : Store} {r : Except Fault ChunkStream.Advance} {st₂ : ChunkStream}
      (before : Kept c s s₁) (advances : ChunkStream.Advances id size
        { st with waiter := none, pulling := true } s₁ r st₂ s₂) :
      r = .error fault ∧ st₂.Errored fault :=
    advances.of_meets (meets.grows attentive before.spares.grows before.heap).pulled
      (free.spared before.spares others)
  cases h with
  | served before advances ends after =>
    obtain ⟨rfl, errored⟩ := raises before advances
    cases ends
    exact ⟨rfl, errored.final⟩
  | waits before advances after => cases (raises before advances).1

/-- A stretch of a pull on a stream that has ended raises the fault. -/
theorem Pull.Goes.of_final (h : Goes id size c st s out st' s') (final : st.Final fault) :
    out = .ended (.error (leavingCoroutine fault)) := by
  have errored : ({ st with waiter := none, pulling := true } : ChunkStream).Errored fault :=
    final.toErrored.pulled
  cases h with
  | served before advances ends after =>
    obtain ⟨rfl, -⟩ := advances.of_errored errored
    cases ends
    rfl
  | waits before advances after => cases (advances.of_errored errored).1

/-- A stretch of a pull leaves a stream that has ended as it is, and delivers nothing. -/
theorem Pull.Stretch.of_final (h : Stretch id size c st s out st' s') (final : st.Final fault) :
    st'.Final fault ∧ ∀ v, out ≠ .ended (.ok v) := by
  have begun : ({ st with waiter := none, pulling := true } : ChunkStream).Errored fault :=
    final.toErrored.pulled
  cases h with
  | refused => exact ⟨final, nofun⟩
  | interrupted => exact ⟨begun.final, nofun⟩
  | stuck pulling => exact nomatch final.free.symm.trans pulling
  | served before advances ends after =>
    obtain ⟨rfl, rfl⟩ := advances.of_errored begun
    cases ends
    exact ⟨begun.final, nofun⟩
  | waits before advances after => cases (advances.of_errored begun).1

/-! ### Turns -/

/-- A call that goes on with the stream gets to it. -/
theorem Standing.reaches (h : Standing id l g st) (call : a ∈ g.calls) {r : Ready}
    (next : l.store.dequeue = some (r, s)) (goes : a.GoesOn id st l r) :
    ∃ out st', Reaches id a { st with waiter := none } { l with store := s } out st'
      (EventLoop.dispatch r { l with store := s }) := by
  have placed : a.Placed id s := (h.placed a call).spared (spares_taken next goes.resumes)
  obtain ⟨ready, rfl, -⟩ := Store.dequeue_eq next
  rcases goes with ⟨free, begins⟩ | wakes
  · cases h.holder with
    | nobody waiter away =>
      have alone : st = { st with waiter := none } := by rw [← waiter]
      obtain ⟨out, st', reaches⟩ := Pull.reaches_created
        (l := { l with store := { l.store with ready } }) placed begins.pending h.stream h.calm free
        waiter (away a call).lookup begins.created begins.uncancelled
      rw [begins.ready]
      exact ⟨out, st', alone ▸ reaches⟩
    | somebody _ _ pulling => cases free.symm.trans pulling
  · obtain ⟨w, rounds, v, paused, finished, rfl⟩ := wakes.paused
    have thrown : Ready.thrown { l.store with ready } (.wake a.task w) = none :=
      Ready.thrown_wake_finished finished a.task
    rw [Ready.Resumes.dispatch (r := .wake a.task w) rfl, thrown]
    cases h.holder with
    | nobody _ away => exact ((away a call).not_paused paused).elim
    | @somebody b _ _ _ _ pulling _ away =>
      exact Pull.reaches_woken placed wakes.pending h.stream h.calm pulling
        (paused.ready ready) finished wakes.uncancelled

/-- A call that comes to a source that has failed raises the fault of the source. -/
theorem Standing.failing (h : Standing id l g st) (call : a ∈ g.calls) {r : Ready}
    (next : l.store.dequeue = some (r, s)) (resumes : r.Resumes a.task)
    (meets : st.Meets l.store fault) (free : st.Unhindered l.store)
    (reaches : Reaches id a { st with waiter := none } { l with store := s } out st' l') :
    out = .ended (.error (leavingCoroutine fault)) ∧ st'.Final fault := by
  -- What was seen of the stream is carried over to the moment at which the call gets to it: behind
  -- what was taken from the loop, and behind what the call does before.
  have taken := spares_taken next resumes
  obtain ⟨ready, eq, -⟩ := Store.dequeue_eq next
  have heap : s.heap = l.store.heap := by rw [eq]
  have attentive : Attentive id st s := h.attentive.spared taken nofun
  obtain ⟨s₁, s₂, before, goes, after⟩ := reaches.goes
  have meets' : st.Meets s₁ fault :=
    meets.grows h.attentive (taken.grows.trans before.spares.grows) (before.heap.trans heap)
  have free' : st.Unhindered s₁ :=
    (free.spared taken fun k hk => ⟨(h.foreign k hk).1, trivial⟩).spared before.spares fun k hk =>
      ⟨Nat.lt_of_lt_of_le (h.foreign k hk).1 taken.coroutines, trivial⟩
  have attentive' : Attentive id st s₁ := attentive.spared before.spares trivial
  refine goes.of_meets meets'.pulled attentive' free' fun k hk => ?_
  obtain ⟨lt, other⟩ := h.foreign k hk
  exact ⟨Nat.lt_of_lt_of_le (Nat.lt_of_lt_of_le lt taken.coroutines) before.spares.coroutines,
    fun own => other ⟨a, call, own⟩⟩

/-- A turn of a call is nothing to a stream that has ended. -/
theorem Pull.Turn.of_final (h : Turn id a st l out st' l') (pending : l.store.isPending a.task)
    (final : st.Final fault) (g : Ledger) :
    st'.Final fault ∧ (g.turn id a l.store l'.store).returned = g.returned ∧
      (g.turn id a l.store l'.store).ended = g.ended := by
  obtain ⟨s, s', -, stretch, -⟩ := h.passes
  obtain ⟨final', nothing⟩ := stretch.of_final final
  rw [Ledger.turn_of_concludes pending h.stream h.concludes]
  match out, nothing with
  | .ended (.ok v), nothing => exact absurd rfl (nothing v)
  | .ended (.error _), _ | .stuck, _ | .waits _ _, _ => exact ⟨final', rfl, rfl⟩

/-- A stream that has ended with a fault stays as it is, and delivers nothing any more. -/
theorem Standing.Moves.of_final (h : Moves id l g st l' g' st') (final : st.Final fault) :
    st'.Final fault ∧ g'.returned = g.returned ∧ g'.ended = g.ended := by
  cases h with
  | beside calls => exact ⟨final, rfl, rfl⟩
  | @push members _ _ pushes =>
    obtain ⟨new, ledger⟩ := g.accept_eq members
    rw [ledger]
    cases pushes with
    | dropped => exact ⟨final, rfl, rfl⟩
    | refused opened | nothing opened | taken opened => cases final.closed.symm.trans opened
  | close closes =>
    cases closes with
    | again => exact ⟨final, rfl, rfl⟩
    | first opened => cases final.closed.symm.trans opened
  | @abort _ r _ _ aborts =>
    obtain ⟨deserted, ledger⟩ := g.abort_eq st.waiter r
    rw [ledger]
    cases aborts with
    | late => exact ⟨final, rfl, rfl⟩
    | through live | cutShort live =>
      rw [final.phase] at live
      exact nomatch live
  | @turn a r s _ _ _ next resumes turns =>
    obtain ⟨ready, rfl, -⟩ := Store.dequeue_eq next
    cases turns with
    | past past =>
      have ledger : g.turn id a l.store { l.store with ready } = g := Ledger.turn_of_over past rfl g
      rw [ledger]
      exact ⟨final, rfl, rfl⟩
    | refused _ pending _ turn => exact turn.of_final pending final g
    | taken pending turn => exact turn.of_final pending final.alone g

end

/-- A call that raises something delivers nothing. -/
theorem Ledger.turn_of_failed (id : Nat) {a : Call} (s : Store) {s' : Store} {e : Fault}
    (failed : s'.progress a.task = outcomeOf (.error e)) (g : Ledger) :
    (g.turn id a s s').returned = g.returned ∧ (g.turn id a s s').ended = g.ended := by
  unfold Ledger.turn
  split
  · next v _ finished =>
    exact absurd (failed.symm.trans finished) (Pull.outcomeOf_error_ne_finished e v)
  · exact ⟨rfl, rfl⟩

/-! ### Courses -/

/-- What can come of a point of the course of the stream `id`. -/
inductive Onward (id : Nat) (l : EventLoop) (g : Ledger) : EventLoop → Ledger → Prop where
  | here : Onward id l g l g
  | next {l₁ g₁ l₂ g₂} (before : Onward id l g l₁ g₁) (happens : Happens id l₁ g₁ l₂ g₂) :
      Onward id l g l₂ g₂

section

variable {id : Nat} {l l' : EventLoop} {g g' : Ledger} {a : Call} {st : ChunkStream} {s : Store}
  {fault : Fault}

/-- A stream that has ended with a fault stays so whatever happens. -/
theorem Onward.of_final (h : Onward id l g l' g') (standing : Standing id l g st)
    (final : st.Final fault) : ∃ st', Standing id l' g' st' ∧ st'.Final fault ∧
      g'.returned = g.returned ∧ g'.ended = g.ended := by
  -- By induction on what happens; that the stream has ended is kept by every move.
  induction h with
  | here => exact ⟨st, standing, final, rfl, rfl⟩
  | next before happens ih =>
    obtain ⟨st₁, standing₁, final₁, returned, ended⟩ := ih
    obtain ⟨st₂, standing₂, -, moves⟩ := standing₁.happens happens
    obtain ⟨final₂, returned', ended'⟩ := moves.of_final final₁
    exact ⟨st₂, standing₂, final₂, returned'.trans returned, ended'.trans ended⟩

/-- A call that begins on a stream that has ended raises its fault. -/
theorem Standing.refusing (h : Standing id l g st) (final : st.Final fault) (call : a ∈ g.calls)
    {r : Ready} (next : l.store.dequeue = some (r, s)) (begins : a.Begins l r) :
    (EventLoop.dispatch r { l with store := s }).store.progress a.task =
      outcomeOf (.error (leavingCoroutine fault)) := by
  obtain ⟨out, st', reaches⟩ := h.reaches call next (.inl ⟨final.free, begins⟩)
  obtain ⟨s₁, s₂, -, goes, -⟩ := reaches.goes
  obtain rfl := goes.of_final final.alone
  exact reaches.turn.concludes.1

/-- When a call goes on with a stream whose next source has failed, while none of the coroutines in
the queue is running, it raises the fault of that source. Whatever happens then, the stream has
ended with the fault and has nothing queued, nothing is returned any more, and every call that begins
raises the fault as well. -/
theorem Course.failure_final (h : Course id l g) (stream : l.store.streams[id]? = some st)
    (meets : st.Meets l.store fault) (free : st.Unhindered l.store) (call : a ∈ g.calls) {r : Ready}
    (next : l.store.dequeue = some (r, s)) (goes : a.GoesOn id st l r)
    (after : l' = EventLoop.dispatch r { l with store := s }) :
    l'.store.progress a.task = outcomeOf (.error (leavingCoroutine fault)) ∧
      ∀ l₂ g₂, Onward id l' (g.turn id a l.store l'.store) l₂ g₂ →
        (∃ st₂, l₂.store.streams[id]? = some st₂ ∧ st₂.Errored fault) ∧
        g₂.returned = g.returned ∧ g₂.ended = g.ended ∧
        ∀ b ∈ g₂.calls, ∀ r₂ s₂, l₂.store.dequeue = some (r₂, s₂) → b.Begins l₂ r₂ →
          (EventLoop.dispatch r₂ { l₂ with store := s₂ }).store.progress b.task =
            outcomeOf (.error (leavingCoroutine fault)) := by
  subst after
  obtain ⟨st₁, standing⟩ := h.standing
  obtain rfl : st₁ = st := Option.some.inj (standing.stream.symm.trans stream)
  obtain ⟨out, st', reaches⟩ := standing.reaches call next goes
  obtain ⟨rfl, final⟩ := standing.failing call next goes.resumes meets free reaches
  have raised := reaches.turn.concludes.1
  refine ⟨raised, fun l₂ g₂ onward => ?_⟩
  obtain ⟨st'', standing', -, -⟩ := standing.happens (.turn call next goes.resumes)
  obtain rfl : st'' = st' := Option.some.inj (standing'.stream.symm.trans reaches.turn.stream)
  obtain ⟨st₂, standing₂, final₂, returned, ended⟩ := onward.of_final standing' final
  obtain ⟨returned', ended'⟩ := Ledger.turn_of_failed id l.store raised g
  refine ⟨⟨st₂, standing₂.stream, final₂.toErrored⟩, returned.trans returned',
    ended.trans ended', fun b hb r₂ s₂ next₂ begins => ?_⟩
  exact standing₂.refusing final₂ hb next₂ begins

end

/-- A call that comes to a future that has failed raises what the future has failed with. -/
theorem Course.exists_failure : ∃ l g a r s fault, Course 0 l g ∧ a ∈ g.calls ∧
    l.store.dequeue = some (r, s) ∧
    (EventLoop.dispatch r { l with store := s }).store.progress a.task = .failed fault := by
  let fault : Fault := .say .value "boom"
  have opened : Course 0 _ _ := .start (l := { store := { futures := #[{}] } }) rfl nofun
  have pushed := opened.next (.push (.process .future 0) nofun)
  have rejected := pushed.next (.settle (w := 0) (p := .failed fault) rfl nofun nofun)
  have begun := rejected.next (.call "reader" none)
  have raised := begun.failure_final rfl (.queued rfl rfl rfl : ChunkStream.Meets _ _ fault) nofun
    (List.mem_cons_self ..) (r := .step _ none) rfl
    (.inl ⟨rfl, ⟨rfl, ?uncancelled⟩, rfl, rfl⟩) rfl
  · have kept : leavingCoroutine fault = fault := if_neg (by decide)
    rw [kept, outcomeOf, if_neg (by decide)] at raised
    exact ⟨_, _, _, _, _, fault, begun, List.mem_cons_self .., rfl, raised.1⟩
  case uncancelled =>
    intro τ task
    cases task
    rfl

end StreamTemplate
