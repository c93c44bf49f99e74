import StreamTemplate.Proofs.Stream.Order

/-!
# A source that fails

A pull that comes to a source that has failed raises the fault of the source, and the stream is over
with it: nothing queued is left, nothing is returned any more, and every later pull raises the same
fault. `Meets` says which source the next pull comes to. Two faults go another way. When a queued
coroutine is just running, closing the queue stops halfway; and a fault that is no ordinary one, such
as a cancellation, is passed on by an iterable that cannot be gone through without ending the
stream.
-/

namespace StreamTemplate

open Pull (Call Turn Reaches Goes Kept Tended Outcome)

/-- The fault that work of a kind of source comes to, if it delivers no chunk. -/
def SourceKind.fault? (kind : SourceKind) : Progress → Option Fault
  | .pending => none
  | .cancelled => some (.say .cancelled s!"{kind.label} chunk source was cancelled")
  | .failed fault => some fault
  | .finished v =>
    if kind = .deferred then
      if v.isEmission then none else some (.chunkType v.className false)
    else
      match v with
      | .tuple _ [.bool false, item] =>
        if item.isEmission then none else some (.chunkType item.className false)
      | _ => none

theorem not_isPending_of_fault? {kind : SourceKind} {s : Store} {w : Nat} {fault : Fault}
    (h : kind.fault? (s.progress w) = some fault) : ¬s.isPending w := by
  rw [Store.isPending_iff]
  intro pending
  rw [pending] at h
  cases h

/-- The fault that a source comes to as soon as its turn has come, if it is known by then. -/
def Source.fault? (s : Store) (source : Source) : Option Fault :=
  match source.kind with
  | .literal => none
  | .deferred =>
    match source.value with
    | .process .future w | .process .task w =>
      if w < s.futures.size then source.kind.fault? (s.progress w) else none
    | _ => none
  | .substream =>
    match Store.iterator s.heap source.value Store.notAsyncIterator with
    | .error fault => if fault.isOrdinary then some fault else none
    | .ok _ => none

namespace Source

variable {s : Store} {source : Source} {fault : Fault}

theorem fault?_of_literal (kind : source.kind = .literal) : source.fault? s = none := by
  unfold fault?
  rw [kind]

theorem future_of_fault? (kind : source.kind = .deferred) (h : source.fault? s = some fault) :
    ∃ w, (source.value = .process .future w ∨ source.value = .process .task w) ∧
      w < s.futures.size ∧ source.kind.fault? (s.progress w) = some fault := by
  unfold fault? at h
  split at h
  · next literal => exact nomatch kind.symm.trans literal
  · split at h
    · next w value =>
      obtain ⟨lt, known⟩ := Option.ite_none_right_eq_some.mp h
      exact ⟨w, .inl value, lt, known⟩
    · next w value =>
      obtain ⟨lt, known⟩ := Option.ite_none_right_eq_some.mp h
      exact ⟨w, .inr value, lt, known⟩
    · cases h
  · next substream => exact nomatch kind.symm.trans substream

/-- Awaiting a source that has failed begins no work. -/
theorem startAwaiting_of_fault? (kind : source.kind = .deferred) (h : source.fault? s = some fault) :
    ∃ w, (Store.startAwaiting source.value).run s = (w, s) ∧
      source.kind.fault? (s.progress w) = some fault := by
  obtain ⟨w, value | value, -, known⟩ := future_of_fault? kind h
  · rw [value]
    exact ⟨w, rfl, known⟩
  · rw [value]
    exact ⟨w, rfl, known⟩

theorem iterator_of_fault? (kind : source.kind = .substream) (h : source.fault? s = some fault) :
    Store.iterator s.heap source.value Store.notAsyncIterator = .error fault ∧
      fault.isOrdinary = true := by
  unfold fault? at h
  split at h
  · next literal => exact nomatch kind.symm.trans literal
  · next deferred => exact nomatch kind.symm.trans deferred
  · split at h
    · next fault' iterates =>
      split at h
      · next ordinary =>
        cases h
        exact ⟨iterates, ordinary⟩
      · cases h
    · cases h

/-- A source that has failed stays so. -/
theorem fault?_grows {s' : Store} (h : source.fault? s = some fault) (grows : s.Grows s')
    (heap : s'.heap = s.heap) : source.fault? s' = some fault := by
  rcases kind : source.kind with _ | _ | _
  · rw [fault?_of_literal kind] at h
    cases h
  · obtain ⟨w, value, lt, known⟩ := future_of_fault? kind h
    have same : s'.progress w = s.progress w := grows.progress lt (not_isPending_of_fault? known)
    have lt' := Nat.lt_of_lt_of_le lt grows.futures
    rw [kind] at known
    unfold fault?
    rcases value with value | value <;> simp only [kind, value, if_pos lt', same, known]
  · obtain ⟨iterates, ordinary⟩ := iterator_of_fault? kind h
    unfold fault?
    simp only [kind, heap, iterates, if_pos ordinary]

end Source

/-- Whether what a substream has delivered is no item. -/
def Value.IsEnd (v : Value) : Prop :=
  ∀ tuple item, v ≠ .tuple tuple [.bool false, item]

namespace ChunkStream

/-- The source that the next pull comes to has failed with a fault: the one at the head of the queue,
the active one, or the one behind an active one that is exhausted. -/
inductive Meets (st : ChunkStream) (s : Store) (fault : Fault) : Prop where
  | queued {source rest} (phase : st.phase = .idle) (queue : st.queue.toList = source :: rest)
      (failed : source.fault? s = some fault)
  | active {w source} (phase : st.phase = .draining) (inflight : st.inflight = some w)
      (active : st.active = some source) (failed : source.kind.fault? (s.progress w) = some fault)
  | behind {w source v next rest} (phase : st.phase = .draining) (inflight : st.inflight = some w)
      (active : st.active = some source) (kind : source.kind ≠ .deferred)
      (finished : s.progress w = .finished v) (exhausted : v.IsEnd)
      (queue : st.queue.toList = next :: rest) (failed : next.fault? s = some fault)

/-- None of the coroutines in the queue is just running. -/
def Unhindered (st : ChunkStream) (s : Store) : Prop :=
  ∀ c, .process .coroutine c ∈ st.queued → s.coroutineState c ≠ .running

/-- The stream has ended with a fault. -/
structure Errored (fault : Fault) (st : ChunkStream) : Prop where
  phase : st.phase = .errored
  fault : st.fault = some fault
  queue : st.queue.toList = []
  closed : st.closed = true

end ChunkStream

/-! ### Failing goes through -/

theorem Store.coroutineState_setCoroutine_closed {s : Store} {c k : Nat}
    (h : s.coroutineState k ≠ .running) : (s.setCoroutine c .closed).coroutineState k ≠ .running := by
  unfold coroutineState setCoroutine at *
  rw [Array.getElem?_modify]
  split
  · cases s.coroutines[k]? <;> nofun
  · exact h

theorem Store.disposal_of_free {vs : List Value} {s : Store}
    (h : ∀ c, .process .coroutine c ∈ vs → s.coroutineState c ≠ .running) :
    (disposal vs s).1 = .ok () := by
  fun_induction disposal vs s with
  | case1 s => rfl
  | case2 c vs s running => exact absurd running (h c (.head _))
  | case3 c vs s running ih =>
    exact ih fun k hk => coroutineState_setCoroutine_closed (h k (.tail _ hk))
  | case4 v vs s other ih => exact ih fun k hk => h k (.tail _ hk)

namespace ChunkStream

variable {id : Nat} {size : Option Int} {st st' : ChunkStream} {s s' : Store}

theorem Unhindered.of_subset (h : st.Unhindered s) (queued : st'.queued ⊆ st.queued)
    (same : s'.coroutines = s.coroutines) : st'.Unhindered s' := by
  intro c hc
  rw [Store.coroutineState, same]
  exact h c (queued hc)

theorem queued_activated {source : Source} {rest : List Source}
    (queue : st.queue.toList = source :: rest) : (st.activated source rest).queued ⊆ st.queued := by
  have taken : (st.activated source rest).queued = rest.map (·.value) := rfl
  rw [taken, queued, queue]
  exact List.subset_cons_self ..

theorem coroutines_unheard (s : Store) (id : Nat) (inflight : Option Nat) :
    (s.unheard id inflight).coroutines = s.coroutines := by
  cases inflight <;> rfl

theorem errored_failed (st : ChunkStream) (fault : Fault) : (st.failed fault).Errored fault :=
  ⟨rfl, rfl, rfl, rfl⟩

/-- A stream that fails while no queued coroutine is running ends with the fault. -/
theorem Fails.errored {fault e : Fault} (h : Fails id fault st s e st' s') (free : st.Unhindered s) :
    e = fault ∧ st'.Errored fault := by
  cases h with
  | through => exact ⟨rfl, errored_failed st fault⟩
  | cutShort disposed =>
    have through := Store.disposal_of_free
      (free.of_subset (List.Subset.refl _) (coroutines_unheard s id st.inflight))
    rw [ChunkStream.queued, disposed] at through
    cases through

/-- What becomes of failed work ends the stream. -/
theorem Settles.of_fault {source : Source} {p : Progress} {r : Except Fault (Option Value)}
    {fault : Fault} (h : Settles id source st s p r st' s')
    (failed : source.kind.fault? p = some fault) (free : st.Unhindered s) :
    r = .error fault ∧ st'.Errored fault := by
  cases h with
  | cancelled fails | failed fails =>
    cases failed
    obtain ⟨rfl, errored⟩ := fails.errored free
    exact ⟨rfl, errored⟩
  | result kind emission =>
    simp only [SourceKind.fault?, if_pos kind, if_pos emission] at failed
    cases failed
  | badResult kind emission fails =>
    simp only [SourceKind.fault?, if_pos kind, if_neg emission] at failed
    cases failed
    obtain ⟨rfl, errored⟩ := fails.errored free
    exact ⟨rfl, errored⟩
  | item kind emission =>
    simp only [SourceKind.fault?, if_neg kind, if_pos emission] at failed
    cases failed
  | badItem kind emission fails =>
    simp only [SourceKind.fault?, if_neg kind, if_neg emission] at failed
    cases failed
    obtain ⟨rfl, errored⟩ := fails.errored free
    exact ⟨rfl, errored⟩
  | exhausted kind item =>
    simp only [SourceKind.fault?, if_neg kind] at failed
    cases failed

theorem map_chunk_eq_error {r : Except Fault Value} {fault : Fault}
    (h : r.map some = .error fault) : r.map Advance.chunk = .error fault := by
  cases r <;> cases h
  rfl

/-- An idle stream whose next source has failed ends with the fault. -/
theorem Serves.of_fault {source : Source} {rest : List Source} {r : Except Fault Advance}
    {fault : Fault} (h : Serves id size st s r st' s') (queue : st.queue.toList = source :: rest)
    (failed : source.fault? s = some fault) (free : st.Unhindered s) :
    r = .error fault ∧ st'.Errored fault := by
  have head {source' rest'} (queue' : st.queue.toList = source' :: rest') :
      source' = source ∧ rest' = rest := List.cons.inj (queue'.symm.trans queue)
  cases h with
  | empty none | ended none | closeFault none => cases none.symm.trans queue
  | literal queue' kind =>
    obtain ⟨rfl, rfl⟩ := head queue'
    rw [Source.fault?_of_literal kind] at failed
    cases failed
  | awaiting queue' kind begun pending =>
    obtain ⟨rfl, rfl⟩ := head queue'
    obtain ⟨w, begun', known⟩ := Source.startAwaiting_of_fault? kind failed
    obtain ⟨rfl, rfl⟩ := Prod.mk.inj (begun.symm.trans begun')
    rw [Store.isPending_iff, Store.heard, Store.progress_listen] at pending
    rw [pending] at known
    cases known
  | settled queue' kind begun pending settles =>
    obtain ⟨rfl, rfl⟩ := head queue'
    obtain ⟨w, begun', known⟩ := Source.startAwaiting_of_fault? kind failed
    obtain ⟨rfl, rfl⟩ := Prod.mk.inj (begun.symm.trans begun')
    rw [Store.heard, Store.progress_listen] at settles
    obtain ⟨outcome, errored⟩ := settles.of_fault known
      (free.of_subset (queued_activated queue) (Store.coroutines_listen ..))
    exact ⟨map_chunk_eq_error outcome, errored⟩
  | requesting queue' kind iterates =>
    obtain ⟨rfl, rfl⟩ := head queue'
    cases iterates.symm.trans (Source.iterator_of_fault? kind failed).1
  | unusable queue' kind iterates ordinary fails =>
    obtain ⟨rfl, rfl⟩ := head queue'
    cases iterates.symm.trans (Source.iterator_of_fault? kind failed).1
    obtain ⟨rfl, errored⟩ := fails.errored (free.of_subset (queued_activated queue) rfl)
    exact ⟨rfl, errored⟩
  | escaping queue' kind iterates ordinary =>
    obtain ⟨rfl, rfl⟩ := head queue'
    obtain ⟨iterates', ordinary'⟩ := Source.iterator_of_fault? kind failed
    cases iterates.symm.trans iterates'
    exact absurd ordinary' ordinary

/-- An exhausted substream neither delivers nor fails. -/
theorem not_settles_some {source : Source} {v : Value} {r : Except Fault Value}
    (kind : source.kind ≠ .deferred) (exhausted : v.IsEnd) :
    ¬Settles id source st s (.finished v) (r.map some) st' s' := by
  intro h
  generalize outcome : r.map some = r' at h
  cases h with
  | result deferred | badResult deferred => exact kind deferred
  | item | badItem => exact exhausted _ _ rfl
  | exhausted => cases r <;> cases outcome

/-- A pull that comes to a source that has failed raises its fault, and the stream ends with it. -/
theorem Advances.of_meets {r : Except Fault Advance} {fault : Fault}
    (h : Advances id size st s r st' s') (meets : st.Meets s fault) (free : st.Unhindered s) :
    r = .error fault ∧ st'.Errored fault := by
  cases meets with
  | queued phase queue failed =>
    cases h with
    | idle _ serves => exact serves.of_fault queue failed free
    | errored phase' | past phase' | adrift phase' | requesting phase' | pending phase'
    | orphaned phase' | settled phase' | passed phase' => cases phase.symm.trans phase'
  | @active w source phase inflight active failed =>
    have landed : st.landed.Unhindered (s.unheard id (some w)) :=
      free.of_subset (List.Subset.refl _) rfl
    have done : ¬ s.isPending w := fun pending => by
      rw [(Store.isPending_iff ..).mp pending] at failed
      cases failed
    rcases h.of_done phase inflight done active with ⟨r', rfl, settles⟩ | ⟨_, _, settles, -⟩
    · obtain ⟨outcome, errored⟩ := settles.of_fault failed landed
      exact ⟨map_chunk_eq_error outcome, errored⟩
    · cases (settles.of_fault failed landed).1
  | @behind w source v source' rest phase inflight active kind finished exhausted queue failed =>
    have done : ¬ s.isPending w := fun pending => by
      cases finished.symm.trans ((Store.isPending_iff ..).mp pending)
    rcases h.of_done phase inflight done active with ⟨r', rfl, settles⟩ | ⟨_, _, settles, serves⟩
    · rw [finished] at settles
      exact absurd settles (not_settles_some kind exhausted)
    · obtain ⟨rfl, rfl, -⟩ := settles.of_none
      exact serves.of_fault queue
        (Source.fault?_grows failed (Store.still_unheard s id _).grows rfl)
        (free.of_subset (List.Subset.refl _) rfl)

end ChunkStream

end StreamTemplate
