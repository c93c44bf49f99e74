import StreamTemplate.Proofs.Stream.Moves

/-!
# No wake-up is lost

When nothing is ready any more and a call still waits, the stream has nothing to offer: it is idle and
more may come, or the work in flight is pending. There is one exception. An abort closes what is
queued; while one of the coroutines there is running, that fails halfway, and the pull that waits
then is deserted.
-/

namespace StreamTemplate

open Pull (Call)

namespace Standing

variable {id : Nat} {l : EventLoop} {g : Ledger} {st : ChunkStream}

/-- A stream that has let go of its source is not at rest. -/
theorem not_atRest (h : st.Torn) (s : Store) : ¬ st.AtRest s := by
  obtain ⟨phase, inflight⟩ := h
  rintro (⟨idle, -⟩ | ⟨-, w, some, -⟩)
  · exact nomatch phase.symm.trans idle
  · exact nomatch inflight.symm.trans some

/-- Once nothing is ready, work that the stream is told of is pending. -/
theorem atRest_of_alert {s : Store} (h : st.Alert id s) (quiet : s.ready.toList = []) :
    st.AtRest s := by
  rcases h with idle | ⟨phase, w, inflight, told⟩
  · exact .inl idle
  · refine .inr ⟨phase, w, inflight, ?_⟩
    by_cases pending : s.isPending w
    · exact pending
    · have ready := told.mem_ready pending
      rw [quiet] at ready
      cases ready

/-- The call that waits is the one that the stream knows of. -/
theorem waiter_of_lookup (h : Standing id l g st) {a : Call} (call : a ∈ g.calls)
    (waits : (l.waiting.lookup a.task).isSome) :
    ∃ w rounds, st.waiter = some w ∧ a.Waits id w rounds l := by
  have present (away : a.Away l) : False := by
    rw [away.lookup] at waits
    cases waits
  cases h.holder with
  | nobody _ away => exact (present (away a call)).elim
  | @somebody b w rounds _ waiter _ holds away =>
    by_cases own : a = b
    · exact own ▸ ⟨w, rounds, waiter, holds⟩
    · exact (present (away a call own)).elim

end Standing

/-- Whatever has happened to a stream, once nothing is ready and a call still waits, the stream is
idle, open and has nothing queued, or it is draining and its work in flight is pending; unless an
abort failed while the call was waiting. -/
theorem Course.atRest_iff {id : Nat} {l : EventLoop} {g : Ledger} (h : Course id l g)
    (quiet : l.store.ready.toList = []) {a : Call} (call : a ∈ g.calls)
    (waits : (l.waiting.lookup a.task).isSome) :
    ∃ st w, l.store.streams[id]? = some st ∧ st.waiter = some w ∧
      (st.AtRest l.store ↔ w ∉ g.deserted) := by
  obtain ⟨st, standing⟩ := h.standing
  obtain ⟨w, rounds, waiter, holds⟩ := standing.waiter_of_lookup call waits
  have pending : l.store.isPending w := by
    by_cases pending : l.store.isPending w
    · exact pending
    · have ready := holds.told.mem_ready pending
      rw [quiet] at ready
      cases ready
  have excuse := standing.excuse waiter pending
  refine ⟨st, w, standing.stream, waiter, fun rests left => ?_, fun kept => ?_⟩
  · exact Standing.not_atRest (excuse.torn left) l.store rests
  · exact Standing.atRest_of_alert (excuse.alert kept) quiet

/-- A call on a new stream waits while the stream is at rest. -/
theorem Course.exists_atRest : ∃ l g a, Course 0 l g ∧ l.store.ready.toList = [] ∧ a ∈ g.calls ∧
    (l.waiting.lookup a.task).isSome ∧
    ∃ st, l.store.streams[0]? = some st ∧ st.AtRest l.store := by
  have opened : Course 0 _ _ := .start (l := {}) rfl nofun
  have begun := opened.next (.call "reader" none)
  have waits := begun.next (.turn (r := .step 0 none) (List.mem_cons_self ..) rfl rfl)
  obtain ⟨st, w, stream, waiter, rests⟩ := waits.atRest_iff rfl (List.mem_cons_self ..) rfl
  exact ⟨_, _, _, waits, rfl, List.mem_cons_self .., rfl, st, stream,
    rests.mpr List.not_mem_nil⟩

end StreamTemplate
