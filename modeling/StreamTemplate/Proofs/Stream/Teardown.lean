import StreamTemplate.Proofs.Loop.Steady
import StreamTemplate.Proofs.Stream.Failing
import StreamTemplate.Proofs.Stream.Moves

/-!
# What becomes of sources when a stream is torn down

A stream that fails or is aborted closes the coroutines in its queue, and they never run then. It lets go
of the work in flight without cancelling it, and leaves everything else alone that has been started:
futures, tasks, asynchronous generators, and coroutines that are not in its queue. It makes no difference
for a queued coroutine whether it has been started: one that is suspended is closed, too, and one that is
just running keeps the stream from being torn down.
-/

namespace StreamTemplate

open Pull (Call Turn Stretch Kept Tended)

/-! ### What is queued is closed -/

namespace Store

variable {s s' : Store} {c : Nat}

/-- When values have been closed, their coroutines are closed, and what was closed before still is. -/
theorem closed_of_disposal {vs : List Value} (disposed : disposal vs s = (.ok (), s')) :
    (s.coroutineState c = .closed → s'.coroutineState c = .closed) ∧
      (.process .coroutine c ∈ vs → s'.coroutineState c = .closed) := by
  fun_induction disposal vs s with
  | case1 s =>
    cases disposed
    exact ⟨id, fun mem => absurd mem List.not_mem_nil⟩
  | case2 k vs s running => cases disposed
  | case3 k vs s running ih =>
    obtain ⟨stays, closes⟩ := ih disposed
    refine ⟨fun closed => stays ?_, fun mem => ?_⟩
    · by_cases same : k = c
      · subst same
        exact s.coroutineState_closed k
      · rw [coroutineState_setCoroutine_ne same, closed]
    · rcases List.mem_cons.mp mem with same | mem
      · cases same
        exact stays (s.coroutineState_closed c)
      · exact closes mem
  | case4 v vs s other ih =>
    obtain ⟨stays, closes⟩ := ih disposed
    refine ⟨stays, fun mem => ?_⟩
    rcases List.mem_cons.mp mem with same | mem
    · exact absurd same.symm (other c)
    · exact closes mem

theorem coroutines_woken (s : Store) (waiter : Option Nat) :
    (s.woken waiter).coroutines = s.coroutines := by
  cases waiter with
  | none => rfl
  | some w =>
    rw [woken_some]
    split
    · exact coroutines_completed ..
    · rfl

theorem leaves_woken (s : Store) (waiter : Option Nat) : s.Leaves (s.woken waiter) := by
  cases waiter with
  | none => exact .refl s
  | some w =>
    rw [woken_some]
    split
    · exact .completed ..
    · exact .refl s

theorem heap_woken (s : Store) (waiter : Option Nat) : (s.woken waiter).heap = s.heap := by
  cases waiter with
  | none => rfl
  | some w =>
    rw [woken_some]
    split
    · exact heap_completed ..
    · rfl

end Store

namespace ChunkStream

/-- The stream has ended with a fault and holds no source. -/
structure TornDown (st : ChunkStream) : Prop where
  phase : st.phase = .errored
  queue : st.queued = []
  inflight : st.inflight = none
  active : st.active = none
  iterator : st.iterator = none

/-- From `s` to `s'` a stream is torn down, and the coroutines in its queue are closed. -/
structure TearsDown (st : ChunkStream) (st' : ChunkStream) (s' : Store) : Prop where
  torn : st'.TornDown
  closed : ∀ c, .process .coroutine c ∈ st.queued → s'.coroutineState c = .closed

section

variable {id : Nat} {size : Option Int} {fault e : Fault} {source : Source} {st st' : ChunkStream}
  {s s' : Store} {p : Progress}

theorem tornDown_failed (st : ChunkStream) (fault : Fault) : (st.failed fault).TornDown :=
  ⟨rfl, rfl, rfl, rfl, rfl⟩

/-- A stream that has failed has closed its queue. -/
theorem tearsDown_of_disposal (fault : Fault) (waiter : Option Nat)
    (disposed : Store.disposal (st.queue.toList.map (·.value)) s = (.ok (), s')) :
    st.TearsDown (st.failed fault) (s'.woken waiter) := by
  refine ⟨tornDown_failed st fault, fun c mem => ?_⟩
  rw [Store.coroutineState, Store.coroutines_woken]
  exact (Store.closed_of_disposal disposed).2 mem

theorem Fails.tearsDown (h : Fails id fault st s e st' s') (going : st.phase ≠ .errored)
    (torn : st'.phase = .errored) : st.TearsDown st' s' := by
  cases h with
  | through disposed => exact tearsDown_of_disposal fault st.waiter disposed
  | cutShort => exact absurd torn going

theorem Settles.tearsDown {r : Except Fault (Option Value)} (h : Settles id source st s p r st' s')
    (going : st.phase ≠ .errored) (torn : st'.phase = .errored) : st.TearsDown st' s' := by
  cases h with
  | cancelled fails | failed fails | badItem _ _ fails => exact fails.tearsDown going torn
  | badResult _ _ fails =>
    have down := fails.tearsDown nofun torn
    exact ⟨down.torn, down.closed⟩
  | result | exhausted => cases torn
  | item => exact absurd torn going

/-- A coroutine whose turn has come is awaited, and its work is pending. -/
theorem isPending_started {c w : Nat} (begun : (Store.startAwaiting (.process .coroutine c)).run s = (w, s')) :
    (s'.heard id w).isPending w := by
  have started : (Store.startAwaiting (.process .coroutine c)).run s = (Store.newTask c none).run s := rfl
  rw [started] at begun
  obtain ⟨rfl, rfl⟩ := Prod.mk.inj begun.symm
  rw [Store.isPending_iff, Store.heard, Store.progress_listen]
  show (((s.futures.push _)[s.futures.size]?).map _).getD _ = _
  rw [Array.getElem?_push_size]
  rfl

theorem Serves.tearsDown {r : Except Fault Advance} (h : Serves id size st s r st' s')
    (going : st.phase ≠ .errored) (torn : st'.phase = .errored) : st.TearsDown st' s' := by
  have draining : Phase.draining ≠ .errored := by decide
  -- Only a source that is no coroutine has left the queue.
  have behind {source rest} (queue : st.queue.toList = source :: rest)
      (other : ∀ c, source.value ≠ .process .coroutine c) {st₁ st' : ChunkStream} {s' : Store}
      (queued : st₁.queued = rest.map (·.value)) (down : st₁.TearsDown st' s') :
      st.TearsDown st' s' := by
    refine ⟨down.torn, fun c mem => down.closed c ?_⟩
    rw [ChunkStream.queued, queue] at mem
    rw [queued]
    exact (List.mem_cons.mp mem).resolve_left fun same => other c same.symm
  cases h with
  | empty | literal => exact absurd torn going
  | ended | awaiting | requesting | escaping => cases torn
  | closeFault _ _ _ fails => exact fails.tearsDown going torn
  | settled queue kind begun pending settles =>
    refine behind queue (fun c same => pending ?_) rfl (settles.tearsDown draining torn)
    rw [same] at begun
    exact isPending_started begun
  | @unusable source _ _ _ _ _ queue kind iterates _ fails =>
    refine behind queue (fun c same => ?_) rfl (fails.tearsDown draining torn)
    rw [same] at iterates
    cases iterates

/-- A pull that comes to the end of a stream has closed what was queued. -/
theorem Advances.tearsDown {r : Except Fault Advance} (h : Advances id size st s r st' s')
    (going : st.phase ≠ .errored) (torn : st'.phase = .errored) : st.TearsDown st' s' := by
  cases h with
  | errored | past | adrift | orphaned => exact absurd torn going
  | requesting | pending => exact absurd torn going
  | idle _ serves => exact serves.tearsDown going torn
  | settled _ _ _ _ settles =>
    have down := settles.tearsDown going torn
    exact ⟨down.torn, down.closed⟩
  | passed _ _ _ _ settles serves =>
    obtain ⟨rfl, rfl, -⟩ := settles.of_none
    have down := serves.tearsDown nofun torn
    exact ⟨down.torn, down.closed⟩

end

end ChunkStream

section

variable {id c : Nat} {size : Option Int} {l l' : EventLoop} {g g' : Ledger} {a : Call}
  {st st' : ChunkStream} {s s' : Store} {out : Pull.Outcome}

theorem Pull.Stretch.leaves (h : Stretch id size c st s out st' s') : s.Leaves s' := by
  cases h with
  | refused kept | interrupted kept | stuck _ kept => exact kept.leaves
  | served before advances _ after | waits before advances after =>
    exact (before.leaves.trans (advances.apart rfl).leaves).trans after.leaves

/-- A stretch of a pull that tears the stream down. -/
theorem Pull.Stretch.tearsDown (h : Stretch id size c st s out st' s') (going : st.phase ≠ .errored)
    (torn : st'.phase = .errored)
    (others : ∀ k, .process .coroutine k ∈ st.queued → k < s.coroutines.size ∧ k ≠ c) :
    st.TearsDown st' s' := by
  have carried {s₁ s₂ st₂ r} (before : Kept c s s₁)
      (advances : ChunkStream.Advances id size { st with waiter := none, pulling := true } s₁ r st₂ s₂)
      (after : Kept c s₂ s') (torn : st₂.phase = .errored) :
      st₂.TornDown ∧ ∀ k, .process .coroutine k ∈ st.queued → s'.coroutineState k = .closed := by
    have down := advances.tearsDown going torn
    refine ⟨down.torn, fun k mem => ?_⟩
    obtain ⟨lt, other⟩ := others k mem
    have there : k < s₂.coroutines.size := Nat.lt_of_lt_of_le
      (Nat.lt_of_lt_of_le lt before.spares.coroutines) (advances.apart rfl).spares.coroutines
    rw [after.spares.coroutineState there other]
    exact down.closed k mem
  cases h with
  | refused | interrupted | stuck => exact absurd torn going
  | served before advances _ after =>
    obtain ⟨down, closed⟩ := carried before advances after torn
    exact ⟨⟨down.phase, down.queue, down.inflight, down.active, down.iterator⟩, closed⟩
  | waits before advances after =>
    obtain ⟨down, closed⟩ := carried before advances after torn
    exact ⟨⟨down.phase, down.queue, down.inflight, down.active, down.iterator⟩, closed⟩

/-! ### What has been started goes on -/

/-- From `l` to `l'` nothing happens to what others have started: the heap and asynchronous generators stay
as they are, what is ready to run stays ready, tasks wait as they did, and futures, tasks and coroutines
are as before, with whoever listens to them. All this is but for the calls of the stream `id`, the future
that its pull waits for, and the coroutines in its queue. -/
structure Undisturbed (id : Nat) (g : Ledger) (st : ChunkStream) (l l' : EventLoop) : Prop where
  heap : l'.store.heap = l.store.heap
  generators : l'.store.generators = l.store.generators
  ready : ∀ r ∈ l.store.ready.toList, (∀ a ∈ g.calls, ¬ r.Resumes a.task) → r ∈ l'.store.ready.toList
  lookup : ∀ t, ¬ g.Tasks t → l'.waiting.lookup t = l.waiting.lookup t
  spares : l.store.Spares (fun x => x ≠ .stream id ∧ ¬ g.Listeners x)
    (fun w => ¬ g.Tasks w ∧ st.waiter ≠ some w)
    (fun c => ¬ g.Coroutines c ∧ .process .coroutine c ∉ st.queued) l'.store

/-- A stream that fails lets everything be but its queue. -/
theorem undisturbed_failed (g : Ledger) (fault : Fault)
    (disposed : Store.disposal (st.queue.toList.map (·.value)) (l.store.unheard id st.inflight) =
      (.ok (), s)) :
    Undisturbed id g st l
      { l with store := (s.woken st.waiter).setStream id (st.failed fault) } := by
  have apart : ChunkStream.Apart id st.queued l.store s :=
    (ChunkStream.Apart.unheard ..).trans (.disposal disposed)
  have leaves := apart.leaves.trans (s.leaves_woken st.waiter)
  constructor
  case heap => exact (s.heap_woken st.waiter).trans apart.heap
  case generators => exact leaves.generators
  case ready => exact fun r mem _ => leaves.ready mem
  case lookup => exact fun _ _ => rfl
  case spares =>
    have before := apart.spares.mono (fun x (hx : x ≠ .stream id ∧ ¬ g.Listeners x) => hx.1)
      (fun w (_ : ¬ g.Tasks w ∧ st.waiter ≠ some w) => trivial)
      fun c (hc : ¬ g.Coroutines c ∧ .process .coroutine c ∉ st.queued) => hc.2
    refine (before.trans (Store.spares_woken s ?_)).trans (.of_same rfl rfl rfl)
    exact fun w waiter spared => spared.2 waiter

/-- A turn of a call lets everything be but what is queued. -/
theorem undisturbed_turn (call : a ∈ g.calls) {r : Ready}
    (next : l.store.dequeue = some (r, s)) (resumes : r.Resumes a.task)
    (turn : Turn id a { st with waiter := none } { l with store := s } out st' l') :
    Undisturbed id g st l l' := by
  obtain ⟨s₁, s₂, before, stretch, after⟩ := turn.passes
  have spares := Standing.spares_turn next resumes turn
  have leaves : s.Leaves l'.store := (before.leaves.trans stretch.leaves).trans after.leaves
  obtain ⟨ready, rfl, list⟩ := Store.dequeue_eq next
  constructor
  case heap => exact (after.heap.trans stretch.spares.1).trans before.heap
  case generators => exact leaves.generators
  case ready =>
    intro r' mem other
    rw [list] at mem
    refine leaves.ready ((List.mem_cons.mp mem).resolve_left ?_)
    rintro rfl
    exact other a call resumes
  case lookup => exact fun t other => turn.others t fun same => other ⟨a, call, same⟩
  case spares =>
    refine spares.mono (fun x hx => ⟨?_, hx.1⟩) (fun w hw same => hw.1 ⟨a, call, same⟩)
      fun c hc => ⟨fun same => hc.1 ⟨a, call, same⟩, hc.2⟩
    exact fun same => hx.2 ⟨a, call, same⟩

/-- A turn of a call that tears the stream down closes what is queued. -/
theorem Standing.tearsDown_turn (h : Standing id l g st) (call : a ∈ g.calls) {r : Ready}
    (next : l.store.dequeue = some (r, s)) (resumes : r.Resumes a.task) (going : st.phase ≠ .errored)
    (torn : st'.phase = .errored)
    (turn : Turn id a { st with waiter := none } { l with store := s } out st' l') :
    st.TearsDown st' l'.store := by
  have taken := spares_taken next resumes
  obtain ⟨s₁, s₂, before, stretch, after⟩ := turn.passes
  have others (k : Nat) (mem : .process .coroutine k ∈ st.queued) :
      k < s₁.coroutines.size ∧ k ≠ a.coroutine := by
    obtain ⟨lt, other⟩ := h.foreign k mem
    exact ⟨Nat.lt_of_lt_of_le (Nat.lt_of_lt_of_le lt taken.coroutines) before.spares.coroutines,
      fun same => other ⟨a, call, same⟩⟩
  have down := stretch.tearsDown going torn others
  refine ⟨down.torn, fun k mem => ?_⟩
  have there : k < s₂.coroutines.size :=
    Nat.lt_of_lt_of_le (others k mem).1 stretch.spares.2.coroutines
  rw [after.spares.coroutineState there trivial]
  exact down.closed k mem

/-- A step of a course that tears the stream down closes what is queued, and lets everything else be. -/
theorem Standing.Moves.tearsDown (h : Moves id l g st l' g' st') (standing : Standing id l g st)
    (going : st.phase ≠ .errored) (torn : st'.phase = .errored) :
    st.TearsDown st' l'.store ∧ Undisturbed id g st l l' := by
  cases h with
  | beside => exact absurd torn going
  | push pushes => cases pushes <;> exact absurd torn going
  | close closes => cases closes <;> exact absurd torn going
  | @abort fault _ _ _ aborts =>
    cases aborts with
    | late | cutShort => exact absurd torn going
    | through _ disposed =>
      have down := ChunkStream.tearsDown_of_disposal fault st.waiter disposed
      exact ⟨⟨down.torn, down.closed⟩, undisturbed_failed g fault disposed⟩
  | turn call next resumes turns =>
    cases turns with
    | past | refused => exact absurd torn going
    | taken _ turn =>
      exact ⟨standing.tearsDown_turn call next resumes going torn turn,
        undisturbed_turn call next resumes turn⟩

/-- After a step that is about the stream nothing brings anything back that is closed, if nothing did. -/
theorem Happens.orderly (happens : Happens id l g l' g') (orderly : l.Orderly)
    (moved : l'.store.streams[id]? ≠ l.store.streams[id]?) : l'.Orderly := by
  cases happens with
  | push chunk => exact (orderly.withStore (obeys_pushChunk id chunk).run).1
  | close fault =>
    exact (orderly.withStore (Store.obeys_onStream id
      (ChunkStream.obeys_close (Store.obeys_surroundings id) fault)).run).1
  | abort fault =>
    exact (orderly.withStore (Store.obeys_onStream id
      (ChunkStream.obeys_abort (Store.obeys_surroundings id) fault)).run).1
  | call => exact orderly
  | turn call next resumes =>
    obtain ⟨ready, rfl, -⟩ := Store.dequeue_eq next
    have popped : { l with store := { l.store with ready } }.Orderly := orderly
    exact (popped.dispatch _).1
  | notice next =>
    obtain ⟨ready, rfl, -⟩ := Store.dequeue_eq next
    have popped : { l with store := { l.store with ready } }.Orderly := orderly
    exact (popped.dispatch _).1
  | cancel => exact orderly
  | settle => exact orderly
  | outside change => exact absurd change.stream moved

/-- An abort tears a stream down that is not over, unless a coroutine in its queue is just running. -/
theorem EventLoop.abort_tearsDown (stream : l.store.streams[id]? = some st)
    (live : st.phase = .idle ∨ st.phase = .draining) (free : st.Unhindered l.store)
    (fault : Option Fault) :
    ∃ l' st', l.withStore (Store.onStream id (ChunkStream.abort · fault)).run = (.ok (), l') ∧
      l'.store.streams[id]? = some st' ∧ st'.TornDown ∧
      st'.fault = some (fault.getD ChunkStream.tornDown) := by
  obtain ⟨r, st', s', does⟩ : ∃ r st' s', (ChunkStream.abort (Store.surroundings id) fault).does st
    l.store = (r, st', s') := ⟨_, _, _, rfl⟩
  have run : l.withStore (Store.onStream id (ChunkStream.abort · fault)).run = _ :=
    Standing.withStore_onStream stream does
  cases ChunkStream.aborts_of_does does with
  | late past =>
    rcases live with live | live <;> rw [live] at past <;> exact past.elim nofun nofun
  | @through s₁ _ disposed =>
    have apart : ChunkStream.Apart id st.queued l.store s₁ :=
      (ChunkStream.Apart.unheard ..).trans (.disposal disposed)
    refine ⟨_, _, run, Store.streams_setStream _ ?_, ChunkStream.tornDown_failed st _, rfl⟩
    rw [Store.streams_woken, apart.streams]
    exact (Array.getElem?_eq_some_iff.mp stream).1
  | cutShort _ disposed =>
    have through := Store.disposal_of_free
      (free.of_subset (List.Subset.refl _) (ChunkStream.coroutines_unheard l.store id st.inflight))
    rw [ChunkStream.queued, disposed] at through
    cases through

/-- The step of a course that tears the stream down closes what is queued, lets everything else be, and brings
nothing back that is closed. -/
theorem Course.tearsDown (course : Course id l g) (happens : Happens id l g l' g')
    (stream : l.store.streams[id]? = some st) (stream' : l'.store.streams[id]? = some st')
    (going : st.phase ≠ .errored) (torn : st'.phase = .errored) :
    st.TearsDown st' l'.store ∧ Undisturbed id g st l l' ∧ (l.Orderly → l'.Orderly) ∧
      ∀ c, .process .coroutine c ∈ st.queued → c < l'.store.coroutines.size := by
  obtain ⟨st₀, standing⟩ := course.standing
  cases standing.stream.symm.trans stream
  obtain ⟨st₁, standing', grows, moves⟩ := standing.happens happens
  cases standing'.stream.symm.trans stream'
  obtain ⟨down, undisturbed⟩ := moves.tearsDown standing going torn
  refine ⟨down, undisturbed, fun orderly => happens.orderly orderly ?_, fun c mem =>
    Nat.lt_of_lt_of_le (standing.foreign c mem).1 grows.coroutines⟩
  rw [stream, stream']
  rintro ⟨⟩
  exact going torn

/-- A stream that is torn down, by an abort or since a source has failed, closes the coroutines in its
queue, and these never run then: whatever comes of the event loop, at no point of anything that is run
are they anything but closed. The stream holds no source any more. Whatever has been started, by the
stream or by others, goes on undisturbed unless it is a coroutine in the queue. -/
theorem Course.teardown (course : Course id l g) (happens : Happens id l g l' g')
    (stream : l.store.streams[id]? = some st) (stream' : l'.store.streams[id]? = some st')
    (going : st.phase ≠ .errored) (torn : st'.phase = .errored) :
    st'.TornDown ∧ Undisturbed id g st l l' ∧
      ∀ c, .process .coroutine c ∈ st.queued → l'.store.coroutineState c = .closed ∧
        (l.Orderly → (∀ l₁, l'.Later l₁ → l₁.store.coroutineState c = .closed) ∧
          ∀ {α : Type} {p : Process Store α} {s s'}, l'.Begins p s → p.Visits s s' →
            s'.coroutineState c = .closed) := by
  obtain ⟨down, undisturbed, after, there⟩ := course.tearsDown happens stream stream' going torn
  refine ⟨down.torn, undisturbed, fun c mem => ⟨down.closed c mem, fun orderly => ?_⟩⟩
  exact (after orderly).closed (there c mem) (down.closed c mem)

/-- A coroutine in the queue of a stream that is aborted never runs. -/
theorem Course.exists_teardown : ∃ l l' g, Course 0 l g ∧ l.store.coroutineState 0 = .created ∧
    (l.withStore (Store.onStream 0 (ChunkStream.abort · none)).run).2 = l' ∧
    ∀ l₁, l'.Later l₁ → l₁.store.coroutineState 0 = .closed := by
  have opened : Course 0 _ _ :=
    .start (l := { store := { coroutines := #[{ body := .script [] }] } }) rfl nofun
  have known (c : Nat) (mem : .process .coroutine c ∈ [Value.process .coroutine 0]) : c < 1 := by
    cases List.mem_singleton.mp mem
    exact Nat.one_pos
  have pushed := opened.next (.push (.process .coroutine 0) fun c mem => ⟨known c mem, nofun⟩)
  obtain ⟨-, -, closed⟩ := pushed.teardown (.abort none) rfl rfl nofun rfl
  exact ⟨_, _, _, pushed, rfl, rfl, ((closed 0 (.head _)).2 nofun).1⟩

end

end StreamTemplate
