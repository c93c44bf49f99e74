import StreamTemplate.Proofs.Stream.Failing

/-!
# The fields of a stream

The fields of a stream fit its phase (`Coherent`), and some of what they say is for good (`Lasts`): a
stream that is closed stays so, one that is over stays over, and its fault does not change. Every
operation keeps both. A stream that drains also has an active source (`Held`), as long as it does not
fail while one of the coroutines in its queue is running: then failing stops halfway, and the stream
has let go of its source without being over.
-/

namespace StreamTemplate.ChunkStream

/-- No source is active, and nothing is in flight. -/
structure Vacant (st : ChunkStream) : Prop where
  active : st.active = none
  iterator : st.iterator = none
  inflight : st.inflight = none

/-- The fields of a stream fit its phase. -/
inductive Coherent (st : ChunkStream) : Prop where
  | idle (phase : st.phase = .idle) (vacant : st.Vacant) (fault : st.fault = none)
  | draining (phase : st.phase = .draining) (vacant : st.active = none → st.Vacant)
      (fault : st.fault = none)
  | ended (phase : st.phase = .ended) (vacant : st.Vacant) (closed : st.closed = true)
      (queue : st.queue.toList = []) (fault : st.fault = none)
  | errored {fault} (phase : st.phase = .errored) (vacant : st.Vacant) (closed : st.closed = true)
      (queue : st.queue.toList = []) (fault : st.fault = some fault)

/-- What is for good of one stream holds of another. -/
structure Lasts (st st' : ChunkStream) : Prop where
  closed : st.closed = true → st'.closed = true
  ended : st.phase = .ended → st'.phase = .ended
  errored : st.phase = .errored → st'.phase = .errored ∧ st'.fault = st.fault

/-- A stream that drains has an active source. -/
def Held (st : ChunkStream) : Prop :=
  st.phase = .draining → st.active ≠ none

/-- A stream that is not over. -/
def Live (st : ChunkStream) : Prop :=
  st.phase = .idle ∨ st.phase = .draining

/-- What becomes of the fields of a stream when something happens to it while the store is `s`. -/
structure Proceeds (s : Store) (st st' : ChunkStream) : Prop where
  coherent : st'.Coherent
  lasts : st.Lasts st'
  held : st.Held → st.Unhindered s → st'.Held

section

variable {id : Nat} {size : Option Int} {fault e : Fault} {source : Source} {p : Progress}
  {st st' st'' : ChunkStream} {s s' s₁ : Store}

namespace Lasts

theorem refl (st : ChunkStream) : st.Lasts st :=
  ⟨fun h => h, fun h => h, fun h => ⟨h, rfl⟩⟩

theorem trans (h : st.Lasts st') (h' : st'.Lasts st'') : st.Lasts st'' where
  closed closed := h'.closed (h.closed closed)
  ended phase := h'.ended (h.ended phase)
  errored phase := by
    obtain ⟨phase', same⟩ := h.errored phase
    obtain ⟨phase'', same'⟩ := h'.errored phase'
    exact ⟨phase'', same'.trans same⟩

/-- Of a stream that is not over only that it is closed is for good. -/
theorem of_live (live : st.Live) (closed : st.closed = true → st'.closed = true) : st.Lasts st' := by
  refine ⟨closed, fun ended => ?_, fun errored => ?_⟩
  · rcases live with phase | phase <;> cases phase.symm.trans ended
  · rcases live with phase | phase <;> cases phase.symm.trans errored

end Lasts

namespace Coherent

theorem live_fault (h : st.Coherent) (live : st.Live) : st.fault = none := by
  cases h with
  | idle _ _ fault | draining _ _ fault | ended _ _ _ _ fault => exact fault
  | errored errored => rcases live with phase | phase <;> cases phase.symm.trans errored

theorem of_idle (h : st.Coherent) (phase : st.phase = .idle) : st.Vacant := by
  cases h with
  | idle _ vacant => exact vacant
  | draining other | ended other | errored other => cases phase.symm.trans other

theorem of_draining (h : st.Coherent) (phase : st.phase = .draining) :
    st.active = none → st.Vacant := by
  cases h with
  | draining _ vacant => exact vacant
  | idle other | ended other | errored other => cases phase.symm.trans other

theorem of_over (h : st.Coherent) (done : st.phase = .ended ∨ st.phase = .errored) :
    st.Vacant ∧ st.closed = true ∧ st.queue.toList = [] := by
  cases h with
  | ended _ vacant closed queue | errored _ vacant closed queue => exact ⟨vacant, closed, queue⟩
  | idle other | draining other => rcases done with phase | phase <;> cases other.symm.trans phase

/-- Only a stream that has failed holds a fault. -/
theorem fault_iff (h : st.Coherent) : st.fault ≠ none ↔ st.phase = .errored := by
  cases h with
  | idle phase _ fault | draining phase _ fault | ended phase _ _ _ fault =>
    rw [phase, fault]
    simp
  | errored phase _ _ _ fault =>
    rw [phase, fault]
    simp

/-- The fields do not depend on who pulls. -/
theorem pulled (h : st.Coherent) {waiter : Option Nat} {demand : Option Int} {pulling : Bool} :
    ({ st with waiter, demand, pulling } : ChunkStream).Coherent := by
  cases h with
  | idle phase vacant fault =>
    exact .idle phase ⟨vacant.active, vacant.iterator, vacant.inflight⟩ fault
  | draining phase vacant fault =>
    refine .draining phase (fun none => ?_) fault
    exact ⟨none, (vacant none).iterator, (vacant none).inflight⟩
  | ended phase vacant closed queue fault =>
    exact .ended phase ⟨vacant.active, vacant.iterator, vacant.inflight⟩ closed queue fault
  | errored phase vacant closed queue fault =>
    exact .errored phase ⟨vacant.active, vacant.iterator, vacant.inflight⟩ closed queue fault

/-- More in the queue of a stream that is not closed, or its being closed, is nothing to its phase. -/
theorem fed (h : st.Coherent) (opened : st.closed = false) {queue : Queue Source} {closed : Bool}
    {closeFault : Option Fault} :
    ({ st with queue, closed, closeFault } : ChunkStream).Coherent := by
  cases h with
  | idle phase vacant fault =>
    exact .idle phase ⟨vacant.active, vacant.iterator, vacant.inflight⟩ fault
  | draining phase vacant fault =>
    refine .draining phase (fun none => ?_) fault
    exact ⟨none, (vacant none).iterator, (vacant none).inflight⟩
  | ended _ _ closed | errored _ _ closed => cases opened.symm.trans closed

/-- A stream that has not failed has a source. -/
theorem active (phase : st.phase = .draining) (active : st.active = some source)
    (fault : st.fault = none) : st.Coherent :=
  .draining phase (fun none => nomatch active.symm.trans none) fault

end Coherent

namespace Proceeds

/-- A stream of which nothing but who pulls has changed. -/
theorem pulled (coherent : st.Coherent) {waiter : Option Nat} {demand : Option Int}
    {pulling : Bool} : Proceeds s st { st with waiter, demand, pulling } :=
  ⟨coherent.pulled, ⟨fun h => h, fun h => h, fun h => ⟨h, rfl⟩⟩, fun held _ => held⟩

/-- What happens to a stream after something else. -/
theorem behind (h : Proceeds s₁ st' st'') (lasts : st.Lasts st') (held : st.Held → st'.Held)
    (queued : st'.queued ⊆ st.queued) (coroutines : s₁.coroutines = s.coroutines) :
    Proceeds s st st'' :=
  ⟨h.coherent, lasts.trans h.lasts,
    fun has free => h.held (held has) (free.of_subset queued coroutines)⟩

end Proceeds

/-! ### The producer's side -/

theorem Pushes.proceeds {members : List Value} (h : Pushes members st s st' s')
    (coherent : st.Coherent) : Proceeds s st st' := by
  cases h with
  | dropped | refused | nothing => exact ⟨coherent, .refl st, fun held _ => held⟩
  | taken opened =>
    refine ⟨coherent.fed opened, ⟨fun h => h, fun h => h, fun h => ⟨h, rfl⟩⟩, fun held _ => held⟩

theorem Closes.proceeds {fault : Option Fault} (h : Closes fault st s st' s')
    (coherent : st.Coherent) : Proceeds s st st' := by
  cases h with
  | again => exact ⟨coherent, .refl st, fun held _ => held⟩
  | first opened =>
    refine ⟨coherent.fed opened, ⟨fun _ => rfl, fun h => h, fun h => ⟨h, rfl⟩⟩, fun held _ => held⟩

/-! ### Failing -/

theorem Fails.proceeds (h : Fails id fault st s e st' s') (coherent : st.Coherent)
    (live : st.Live) : Proceeds s st st' := by
  have errored (fault : Fault) : (st.failed fault).Coherent :=
    .errored rfl ⟨rfl, rfl, rfl⟩ rfl rfl rfl
  have held (free : st.Unhindered s) : st'.Held := by
    intro draining
    cases (h.errored free).2.phase.symm.trans draining
  cases h with
  | through => exact ⟨errored fault, .of_live live fun _ => rfl, fun _ => held⟩
  | cutShort =>
    have none := coherent.live_fault live
    refine ⟨?_, .of_live live fun closed => closed, fun _ => held⟩
    rcases live with phase | phase
    · exact .idle phase ⟨rfl, rfl, rfl⟩ none
    · exact .draining phase (fun _ => ⟨rfl, rfl, rfl⟩) none

theorem Aborts.proceeds {r : Except Fault Unit} (h : Aborts id fault st s r st' s')
    (coherent : st.Coherent) : Proceeds s st st' := by
  cases h with
  | late => exact ⟨coherent, .refl st, fun held _ => held⟩
  | through live disposed =>
    have fails : Fails id fault st s fault _ _ := .through disposed
    exact fails.proceeds coherent live
  | cutShort live disposed =>
    have fails : Fails id fault st s _ _ _ := .cutShort disposed
    exact fails.proceeds coherent live

/-! ### Pulling -/

theorem Coherent.released (h : st.Coherent) (live : st.Live) (inflight : st.inflight = none) :
    st.released.Coherent :=
  .idle rfl ⟨rfl, rfl, inflight⟩ (h.live_fault live)

/-- A source that is exhausted is let go of. -/
theorem Proceeds.released (coherent : st.Coherent) (live : st.Live) (inflight : st.inflight = none) :
    Proceeds s st st.released :=
  ⟨coherent.released live inflight, .of_live live fun closed => closed, fun _ _ => nofun⟩

theorem Settles.proceeds {r : Except Fault (Option Value)} (h : Settles id source st s p r st' s')
    (coherent : st.Coherent) (phase : st.phase = .draining) (inflight : st.inflight = none) :
    Proceeds s st st' := by
  have live : st.Live := .inr phase
  cases h with
  | cancelled fails | failed fails | badItem _ _ fails => exact fails.proceeds coherent live
  | result | exhausted => exact .released coherent live inflight
  | item => exact ⟨coherent, .refl st, fun held _ => held⟩
  | badResult _ _ fails =>
    refine (fails.proceeds (coherent.released live inflight) (.inl rfl)).behind
      (.of_live live fun closed => closed) (fun _ => nofun) (List.Subset.refl _) rfl

theorem Serves.proceeds {r : Except Fault Advance} (h : Serves id size st s r st' s')
    (coherent : st.Coherent) (phase : st.phase = .idle) : Proceeds s st st' := by
  have live : st.Live := .inl phase
  have vacant := coherent.of_idle phase
  have none := coherent.live_fault live
  have lasts {st' : ChunkStream} (closed : st'.closed = st.closed) : st.Lasts st' :=
    .of_live live fun h => closed.trans h
  have begun {source rest} : (st.activated source rest).Coherent := .active rfl rfl none
  have holds {source rest} : (st.activated source rest).Held := fun _ => nofun
  cases h with
  | empty => exact .pulled coherent
  | ended queue closed =>
    refine ⟨.ended rfl ⟨vacant.active, vacant.iterator, vacant.inflight⟩ closed queue none,
      lasts rfl, fun _ _ => nofun⟩
  | closeFault _ _ _ fails => exact fails.proceeds coherent live
  | literal =>
    exact ⟨.idle phase ⟨vacant.active, vacant.iterator, vacant.inflight⟩ none, lasts rfl,
      fun held _ => held⟩
  | awaiting | requesting => exact ⟨.active rfl rfl none, lasts rfl, fun _ _ _ => nofun⟩
  | @settled source rest w s₁ _ _ _ queue _ begins pending settles =>
    obtain rfl := startAwaiting_of_settled begins pending
    have landed : (st.activated source rest).landed.Coherent := .active rfl rfl none
    have held : (st.activated source rest).Held := holds
    exact (settles.proceeds landed rfl rfl).behind (lasts rfl) (fun _ => held)
      (queued_activated queue) (Store.coroutines_listen ..)
  | unusable queue _ _ _ fails =>
    exact (fails.proceeds begun (.inr rfl)).behind (lasts rfl) (fun _ => holds)
      (queued_activated queue) rfl
  | escaping => exact ⟨begun, lasts rfl, fun _ _ => holds⟩

theorem Advances.proceeds {r : Except Fault Advance} (h : Advances id size st s r st' s')
    (coherent : st.Coherent) : Proceeds s st st' := by
  have landed {source : Source} (phase : st.phase = .draining) (active : st.active = some source) :
      st.landed.Coherent := .active phase active (coherent.live_fault (.inr phase))
  have lasts : st.Lasts st.landed := ⟨fun h => h, fun h => h, fun h => ⟨h, rfl⟩⟩
  cases h with
  | errored | past | adrift => exact ⟨coherent, .refl st, fun held _ => held⟩
  | idle phase serves => exact serves.proceeds coherent phase
  | @requesting it phase inflight iterator =>
    have active : st.active ≠ none := fun none =>
      nomatch (coherent.of_draining phase none).iterator.symm.trans iterator
    obtain ⟨source, active⟩ := Option.ne_none_iff_exists'.mp active
    exact ⟨.active phase active (coherent.live_fault (.inr phase)),
      ⟨fun h => h, fun h => h, fun h => ⟨h, rfl⟩⟩, fun held _ => held⟩
  | @pending w phase inflight =>
    have same : st.launched size w = { st with demand := size } := by
      unfold launched
      rw [← inflight]
    rw [same]
    exact .pulled coherent
  | orphaned phase inflight _ active =>
    cases (coherent.of_draining phase active).inflight.symm.trans inflight
  | settled phase _ _ active settles =>
    exact (settles.proceeds (landed phase active) phase rfl).behind lasts (fun held => held)
      (List.Subset.refl _) rfl
  | passed phase _ _ active settles serves =>
    have passed := settles.proceeds (landed phase active) phase rfl
    obtain ⟨rfl, rfl, -⟩ := settles.of_none
    exact (serves.proceeds passed.coherent rfl).behind (lasts.trans passed.lasts) (fun _ => nofun)
      (List.Subset.refl _) rfl

end

end StreamTemplate.ChunkStream
