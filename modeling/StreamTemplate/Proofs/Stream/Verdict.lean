import StreamTemplate.Proofs.Stream.Backpressure
import StreamTemplate.Proofs.Stream.Final

/-!
# What a pull that fails tells of

A stream that was closed with a fault still has its queue to go through. Two faults compete for the
end of it: that of a source and the one that the stream was closed with, and whichever comes first in
the output wins, no matter which was there first. `Verdict` says so of a pull that raises something,
and counts the chunks that have come out by then; it goes through the cases of `Settles`, `Serves` and
`Advances`. Faults of a stream that is over already are left out, and so is a stream that cannot close
its queue because a coroutine in it is just running.
-/

namespace StreamTemplate

open Accepted (yielded)

/-- What an accepted source has failed with: what was begun for it has come to a fault, or it could
not be gone through. -/
inductive Accepted.Fails (s : Store) (e : Accepted) : Fault → Prop
  | work {w fault} (slot : .awaited e.source.kind w ∈ e.slots)
      (failed : e.source.kind.fault? (s.progress w) = some fault) : Fails s e fault
  | unusable {fault} (kind : e.source.kind = .substream) (work : e.work = [])
      (iterates : Store.iterator s.heap e.source.value Store.notAsyncIterator = .error fault) :
      Fails s e fault

/-- Work that has come to a fault yields nothing. -/
theorem SourceKind.yield_of_fault? {kind : SourceKind} {p : Progress} {fault : Fault}
    (failed : kind.fault? p = some fault) : kind.yield p = [] := by
  unfold SourceKind.fault? at failed
  unfold SourceKind.yield
  split <;> simp_all

section

variable {s s' : Store} {e : Accepted} {m w : Nat} {fault : Fault}

/-- A source that has failed has yielded what it had delivered before. -/
theorem Accepted.Delivers.fails (h : e.Delivers s m (some w))
    (failed : e.source.kind.fault? (s.progress w) = some fault) :
    e.Fails s fault ∧ (e.emissions s).length = m := by
  have nothing := SourceKind.yield_of_fault? failed
  cases h with
  | awaiting kind slots =>
    rw [kind] at nothing
    refine ⟨.work ?_ failed, ?_⟩
    · rw [slots, kind]
      exact List.mem_singleton_self _
    · rw [emissions_deferred slots, nothing]
      rfl
  | requesting kind work items =>
    rw [kind] at nothing
    refine ⟨.work ?_ failed, ?_⟩
    · rw [slots_substream kind, work, kind]
      exact List.mem_map_of_mem (List.mem_append_right _ (List.mem_singleton_self w))
    · rw [emissions_substream kind, work, List.flatMap_append, List.length_append, length_items items,
        List.flatMap_singleton, nothing]
      rfl

/-- What is settled stays so where no future comes into being. -/
theorem Store.Still.progress (still : s.Still s') (settled : ¬ s.isPending w) :
    s'.progress w = s.progress w := by
  by_cases lt : w < s.futures.size
  · exact still.grows.progress lt settled
  · have absent : s.futures[w]? = none := Array.getElem?_eq_none (Nat.le_of_not_lt lt)
    have absent' : s'.futures[w]? = none := by
      apply Array.getElem?_eq_none
      rw [still.size]
      exact Nat.le_of_not_lt lt
    unfold Store.progress
    rw [absent, absent']

end

namespace ChunkStream

/-- What a fault that is raised tells of a stream that was closed with the fault `last`, after `n`
chunks have come out: all sources are exhausted, and it is the last word; or a source has failed with
it, those before it are exhausted, and nothing of those behind it has come out. The stream is over
then, except that it is none the wiser of a fault that is no ordinary one when a source cannot be gone
through. -/
inductive Verdict (last : Fault) (accepted : List Accepted) (st : ChunkStream) (s : Store) (n : Nat) :
    Fault → Prop
  | told (exhausted : ∀ e ∈ accepted, e.Exhausted s) (count : n = yielded s accepted)
      (erred : st.Errored last) : Verdict last accepted st s n last
  | failed {earlier e later fault} (split : accepted = earlier ++ e :: later)
      (exhausted : ∀ e' ∈ earlier, e'.Exhausted s) (fails : e.Fails s fault)
      (count : n = yielded s earlier + (e.emissions s).length)
      (erred : st.Errored fault ∨ ¬ fault.isOrdinary ∧ e.source.kind = .substream ∧ e.work = []) :
      Verdict last accepted st s n fault

section

variable {id : Nat} {size : Option Int} {accepted taken : List Accepted} {e : Accepted}
  {source : Source} {st st' : ChunkStream} {s s' : Store} {m n w : Nat} {p : Progress}
  {fault last : Fault}

/-- A fault that comes of the work of a source is the fault of the source. -/
theorem Settles.of_error (h : Settles id source st s p (.error fault) st' s')
    (free : st.Unhindered s) : source.kind.fault? p = some fault ∧ st'.Errored fault := by
  cases h with
  | cancelled fails | failed fails =>
    obtain ⟨rfl, erred⟩ := fails.errored free
    exact ⟨rfl, erred⟩
  | badResult kind emission fails =>
    obtain ⟨rfl, erred⟩ := fails.errored (free.of_subset (List.Subset.refl _) rfl)
    exact ⟨by simp [SourceKind.fault?, kind, emission], erred⟩
  | badItem kind emission fails =>
    obtain ⟨rfl, erred⟩ := fails.errored free
    exact ⟨by simp [SourceKind.fault?, kind, emission], erred⟩

/-- The verdict when the work in flight has come to a fault. -/
theorem Settles.verdict (h : Settles id e.source st.landed s p (.error fault) st' s')
    (split : accepted = taken ++ e :: st.coming) (exhausted : ∀ e ∈ taken, e.Exhausted s)
    (delivers : e.Delivers s m (some w)) (progress : s.progress w = p) (free : st.Unhindered s) :
    Verdict last accepted st' s' (yielded s taken + m) fault := by
  obtain ⟨failed, erred⟩ := h.of_error (free.of_subset (List.Subset.refl _) rfl)
  have settled : ¬ s.isPending w := by
    apply not_isPending_of_fault?
    rw [progress]
    exact failed
  have still := h.still
  obtain ⟨exhausted', count⟩ := exhausted_grows exhausted still.grows
  have failed' : e.source.kind.fault? (s'.progress w) = some fault := by
    rw [still.progress settled, progress]
    exact failed
  obtain ⟨fails, length⟩ := (delivers.grows still.grows).fails failed'
  exact .failed split exhausted' fails (by rw [count, length]) (.inl erred)

/-- The verdict when an idle stream goes through its queue. -/
theorem Serves.verdict {r : Except Fault Advance} (h : Serves id size st s r st' s')
    (raises : r = .error fault) (closeFault : st.closeFault = some last)
    (split : accepted = taken ++ st.coming) (exhausted : ∀ e ∈ taken, e.Exhausted s)
    (waiter : st.waiter = none) (free : st.Unhindered s) :
    s.Still s' ∧ Verdict last accepted st' s' (yielded s taken) fault := by
  have heap : s'.heap = s.heap := (h.apart waiter).heap
  have next {source : Source} {rest : List Source} (queue : st.queue.toList = source :: rest) :
      accepted = taken ++ { source } :: (st.activated source rest).coming := by
    rw [split, coming, queue]
    rfl
  cases h with
  | empty | ended | literal | awaiting | requesting => cases raises
  | closeFault queue _ closeFault' fails =>
    cases raises
    cases closeFault.symm.trans closeFault'
    obtain ⟨rfl, erred⟩ := fails.errored free
    have all : accepted = taken := by
      rw [split, coming, queue]
      exact List.append_nil _
    obtain ⟨exhausted', count⟩ := exhausted_grows exhausted fails.still.grows
    rw [all]
    exact ⟨fails.still, .told exhausted' count.symm erred⟩
  | @settled source rest w s₁ r _ _ queue kind begun pending settles =>
    cases r with
    | ok => cases raises
    | error =>
      cases raises
      -- What was awaited is settled already, so nothing was begun.
      obtain rfl := startAwaiting_of_settled begun pending
      have heard := (still_heard s₁ id w).trans (Store.still_unheard _ id (some w))
      obtain ⟨exhausted', count⟩ := exhausted_grows exhausted heard.grows
      have slots := Accepted.slots_startAwaiting kind begun
      rw [Store.begun_of_size rfl, kind] at slots
      have free' : (st.activated source rest).Unhindered ((s₁.heard id w).unheard id (some w)) := by
        refine free.of_subset (queued_activated queue) ?_
        rw [coroutines_unheard]
        exact Store.coroutines_listen ..
      have settles' : Settles id source (st.activated source rest).landed
          ((s₁.heard id w).unheard id (some w)) ((s₁.heard id w).progress w) (.error fault) st' s' :=
        settles
      have verdict : Verdict last accepted st' s' _ fault := Settles.verdict (e := { source }) settles'
        (next queue) exhausted' (.awaiting kind slots (.inl rfl)) (Store.progress_unheard ..) free'
      rw [count] at verdict
      exact ⟨heard.trans settles.still, verdict⟩
  | @unusable source rest _ _ _ _ queue kind iterates ordinary fails =>
    cases raises
    obtain ⟨rfl, erred⟩ := fails.errored (free.of_subset (queued_activated queue) rfl)
    obtain ⟨exhausted', count⟩ := exhausted_grows exhausted fails.still.grows
    have unused : (Accepted.emissions s' { source := source }).length = 0 := by
      rw [Accepted.emissions_substream kind]
      rfl
    refine ⟨fails.still, .failed (next queue) exhausted' (.unusable kind rfl ?_) ?_ (.inl erred)⟩
    · rw [heap]
      exact iterates
    · rw [count, unused]
      rfl
  | @escaping source rest _ queue kind iterates ordinary =>
    cases raises
    have unused : (Accepted.emissions s { source := source }).length = 0 := by
      rw [Accepted.emissions_substream kind]
      rfl
    refine ⟨.refl s, .failed (next queue) exhausted (.unusable kind rfl iterates) ?_
      (.inr ⟨ordinary, kind, rfl⟩)⟩
    rw [unused]
    rfl

theorem error_of_map_chunk {r : Except Fault Value} (h : r.map Advance.chunk = .error fault) :
    r = .error fault := by
  cases r <;> cases h
  rfl

/-- An advance that raises something begins nothing, and there is a verdict on it. -/
theorem Advances.verdict {r : Except Fault Advance} (h : Advances id size st s r st' s')
    (raises : r = .error fault) (pace : Pace accepted st s n)
    (closeFault : st.closeFault = some last) (going : ¬ st.Stopped) (waiter : st.waiter = none)
    (free : st.Unhindered s) : s.Still s' ∧ Verdict last accepted st' s' n fault := by
  cases h with
  | errored phase => exact absurd (.inl phase) going
  | past | requesting | pending => cases raises
  | adrift phase inflight iterator => exact absurd (.inr ⟨phase, inflight, iterator⟩) going
  | idle phase serves =>
    obtain ⟨taken, -, split, exhausted, rfl⟩ := pace.of_idle phase
    exact serves.verdict raises closeFault split exhausted waiter free
  | orphaned phase inflight _ active =>
    obtain ⟨_, _, _, some, -⟩ := pace.of_inflight phase inflight
    cases active.symm.trans some
  | @settled w source r _ _ phase inflight pending active settles =>
    obtain ⟨taken, e, m, some, -, split, exhausted, delivers, rfl⟩ := pace.of_inflight phase inflight
    cases active.symm.trans some
    obtain rfl := error_of_map_chunk raises
    have still := Store.still_unheard s id (Option.some w)
    obtain ⟨exhausted', count⟩ := exhausted_grows exhausted still.grows
    have verdict : Verdict last accepted st' s' _ fault := settles.verdict split exhausted'
      (delivers.grows still.grows) (Store.progress_unheard ..)
      (free.of_subset (List.Subset.refl _) rfl)
    rw [count] at verdict
    exact ⟨still.trans settles.still, verdict⟩
  | @passed w source _ _ r _ _ phase inflight pending active settles serves =>
    obtain ⟨taken, e, m, some, iterator, split, exhausted, delivers, rfl⟩ :=
      pace.of_inflight phase inflight
    cases active.symm.trans some
    have still := Store.still_unheard s id (Option.some w)
    obtain ⟨exhausted', count⟩ := exhausted_grows exhausted still.grows
    have passed := settles.pace phase active iterator split exhausted' (delivers.grows still.grows)
      (Store.progress_unheard ..)
    obtain ⟨rfl, rfl, -⟩ := settles.of_none
    -- The source that is exhausted has delivered nothing more; the next one goes on from there.
    obtain ⟨taken', none, split', exhausted'', yields⟩ := passed.of_idle rfl
    have free' : st.landed.released.Unhindered (s.unheard id (Option.some w)) :=
      free.of_subset (List.Subset.refl _) rfl
    obtain ⟨still', verdict⟩ := serves.verdict raises closeFault split' exhausted'' waiter free'
    rw [← yields, count] at verdict
    exact ⟨still.trans still', verdict⟩

end

end ChunkStream

end StreamTemplate
