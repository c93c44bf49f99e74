import StreamTemplate.Proofs.Loop.Pull
import StreamTemplate.Proofs.Loop.Resumed
import StreamTemplate.Proofs.Stream.Coherent

/-!
# What a consumer is told in the end

A call that reads a stream to its end comes to a result only if the stream has ended: everything was
delivered, and it was closed without a fault. A stream that has failed makes the call raise its fault.
There is one exception. In a loop over chunks the signal for the end of an asynchronous loop cannot be
told from the end, so a stream that has failed with that very signal passes for one that has ended.
What is raised has left a coroutine, where the signal for the end of a plain loop is an error.
-/

namespace StreamTemplate

/-! ### Classes of faults -/

theorem FaultClass.isA_stopAsyncIteration {c : FaultClass} (h : c.isA .stopAsyncIteration) :
    c = .stopAsyncIteration := by
  cases c <;> first | rfl | exact absurd h (by decide)

theorem FaultClass.isA_cancelled {c : FaultClass} (h : c.isA .cancelled) : c = .cancelled := by
  cases c <;> first | rfl | exact absurd h (by decide)

namespace Fault

variable {fault : Fault}

theorem isOrdinary_of_stopAsyncIteration (h : fault.isA .stopAsyncIteration) : fault.isOrdinary := by
  unfold isOrdinary isA
  rw [FaultClass.isA_stopAsyncIteration h]
  rfl

theorem not_stopAsyncIteration_of_cancelled (h : fault.isA .cancelled) :
    ¬ fault.isA .stopAsyncIteration := by
  unfold isA
  rw [FaultClass.isA_cancelled h]
  decide

/-- A cancellation leaves a coroutine as it is. -/
theorem leavingCoroutine_of_cancelled (h : fault.isA .cancelled) : leavingCoroutine fault = fault := by
  have other : ¬ fault.isA .stopIteration := by
    unfold isA
    rw [FaultClass.isA_cancelled h]
    decide
  exact if_neg other

/-- What leaves a coroutine is the signal for the end of an asynchronous loop only if it was before. -/
theorem of_leavingCoroutine (h : (leavingCoroutine fault).isA .stopAsyncIteration) :
    fault.isA .stopAsyncIteration := by
  unfold leavingCoroutine at h
  split at h
  · exact absurd h (by decide)
  · exact h

end Fault

theorem Store.disposal_error {vs : List Value} {s s' : Store} {e : Fault}
    (h : disposal vs s = (.error e, s')) : e = executing := by
  fun_induction disposal vs s with
  | case1 s => cases h
  | case2 c vs s running =>
    cases h
    rfl
  | case3 c vs s running ih => exact ih h
  | case4 v vs s other ih => exact ih h

namespace ChunkStream

/-! ### Streams in order -/

/-- A stream that has delivered everything that was fed to it and was closed without a fault. -/
structure Complete (st : ChunkStream) : Prop where
  phase : st.phase = .ended
  closed : st.closed = true
  queue : st.queue.toList = []
  closeFault : st.closeFault = none

/-- The fields of a stream fit its phase, and if it has ended it was closed without a fault. -/
structure Orderly (st : ChunkStream) : Prop where
  coherent : st.Coherent
  closeFault : st.phase = .ended → st.closeFault = none

theorem orderly_new : Orderly {} :=
  ⟨.idle rfl ⟨rfl, rfl, rfl⟩ rfl, nofun⟩

/-- What a stream is like that has raised a fault: it has failed with it, or it is not over. -/
inductive Raises (st : ChunkStream) : Fault → Prop
  | verdict {fault} (erred : st.Errored fault) : Raises st fault
  | midway {fault} (live : st.Live) (other : ¬ fault.isA .stopAsyncIteration) : Raises st fault

/-- What a stream is like when a pull has come as far as it can. -/
inductive Reports (st : ChunkStream) : Except Fault Advance → Prop
  | chunk {v} (live : st.Live) : Reports st (.ok (.chunk v))
  | ended (complete : st.Complete) : Reports st (.ok .ended)
  | wait (live : st.Live) : Reports st (.ok .wait)
  | fault {e} (raises : st.Raises e) : Reports st (.error e)

section

variable {id : Nat} {size : Option Int} {st st' : ChunkStream} {s s' : Store} {fault e : Fault}
  {source : Source} {p : Progress}

theorem Live.ne_ended (live : st.Live) : st.phase ≠ .ended := by
  rcases live with phase | phase <;> rw [phase] <;> nofun

theorem Live.not_errored (live : st.Live) : ¬ st.Errored fault := by
  intro erred
  rcases live with phase | phase <;> cases phase.symm.trans erred.phase

theorem Complete.not_errored (complete : st.Complete) : ¬ st.Errored fault :=
  fun erred => nomatch complete.phase.symm.trans erred.phase

namespace Orderly

theorem calm (h : st.Orderly) : st.Calm :=
  fun phase => (h.coherent.of_idle phase).inflight

theorem complete (h : st.Orderly) (phase : st.phase = .ended) : st.Complete := by
  obtain ⟨-, closed, queue⟩ := h.coherent.of_over (.inl phase)
  exact ⟨phase, closed, queue, h.closeFault phase⟩

theorem errored (h : st.Orderly) (phase : st.phase = .errored) :
    st.Errored (st.fault.getD broken) := by
  obtain ⟨-, closed, queue⟩ := h.coherent.of_over (.inr phase)
  obtain ⟨fault, some⟩ := Option.ne_none_iff_exists'.mp (h.coherent.fault_iff.mpr phase)
  exact ⟨phase, by rw [some]; rfl, queue, closed⟩

theorem pulled (h : st.Orderly) {waiter : Option Nat} {demand : Option Int} {pulling : Bool} :
    ({ st with waiter, demand, pulling } : ChunkStream).Orderly :=
  ⟨h.coherent.pulled, h.closeFault⟩

end Orderly

theorem Reports.orderly {r : Except Fault Advance} (h : st.Reports r) (coherent : st.Coherent) :
    st.Orderly := by
  refine ⟨coherent, fun phase => ?_⟩
  cases h with
  | chunk live | wait live => exact absurd phase live.ne_ended
  | ended complete => exact complete.closeFault
  | fault raises =>
    cases raises with
    | verdict erred => cases phase.symm.trans erred.phase
    | midway live => exact absurd phase live.ne_ended

/-! ### What the operations come to -/

theorem Pushes.orderly {members : List Value} (h : Pushes members st s st' s')
    (orderly : st.Orderly) : st'.Orderly := by
  refine ⟨(h.proceeds orderly.coherent).coherent, ?_⟩
  cases h with
  | dropped | refused | nothing | taken => exact orderly.closeFault

theorem Closes.orderly {fault : Option Fault} (h : Closes fault st s st' s')
    (orderly : st.Orderly) : st'.Orderly := by
  refine ⟨(h.proceeds orderly.coherent).coherent, ?_⟩
  cases h with
  | again => exact orderly.closeFault
  | first opened => exact fun phase => nomatch opened.symm.trans (orderly.complete phase).closed

theorem Aborts.orderly {r : Except Fault Unit} (h : Aborts id fault st s r st' s')
    (orderly : st.Orderly) : st'.Orderly := by
  refine ⟨(h.proceeds orderly.coherent).coherent, ?_⟩
  cases h with
  | late | cutShort => exact orderly.closeFault
  | through => exact nofun

theorem Fails.raises (h : Fails id fault st s e st' s') (live : st.Live) : st'.Raises e := by
  cases h with
  | through => exact .verdict (errored_failed st fault)
  | cutShort disposed =>
    rw [Store.disposal_error disposed]
    exact .midway live (by decide)

theorem Settles.raises (h : Settles id source st s p (.error e) st' s') (live : st.Live) :
    st'.Raises e := by
  cases h with
  | cancelled fails | failed fails | badItem _ _ fails => exact fails.raises live
  | badResult _ _ fails => exact fails.raises (.inl rfl)

theorem Settles.live {v : Option Value} (h : Settles id source st s p (.ok v) st' s')
    (live : st.Live) : st'.Live := by
  cases h with
  | result | exhausted => exact .inl rfl
  | item => exact live

/-- What settled work comes to is what a pull comes to. -/
theorem Settles.reports {r : Except Fault Value} (h : Settles id source st s p (r.map some) st' s')
    (live : st.Live) : st'.Reports (r.map .chunk) := by
  cases r with
  | ok v => exact .chunk (Settles.live h live)
  | error e => exact .fault (Settles.raises h live)

theorem Serves.reports {r : Except Fault Advance} (h : Serves id size st s r st' s')
    (phase : st.phase = .idle) : st'.Reports r := by
  cases h with
  | empty => exact .wait (.inl phase)
  | ended queue closed closeFault => exact .ended ⟨rfl, closed, queue, closeFault⟩
  | closeFault _ _ _ fails => exact .fault (fails.raises (.inl phase))
  | literal => exact .chunk (.inl phase)
  | awaiting | requesting => exact .wait (.inr rfl)
  | settled _ _ _ _ settles => exact settles.reports (.inr rfl)
  | unusable _ _ _ _ fails => exact .fault (fails.raises (.inr rfl))
  | escaping _ _ _ ordinary =>
    exact .fault (.midway (.inr rfl) fun signal =>
      ordinary (Fault.isOrdinary_of_stopAsyncIteration signal))

theorem Advances.reports {r : Except Fault Advance} (h : Advances id size st s r st' s')
    (orderly : st.Orderly) : st'.Reports r := by
  cases h with
  | errored phase => exact .fault (.verdict (orderly.errored phase))
  | past phase => exact .ended (orderly.complete phase)
  | idle phase serves => exact serves.reports phase
  | adrift phase | orphaned phase => exact .fault (.midway (.inr phase) (by decide))
  | requesting phase | pending phase => exact .wait (.inr phase)
  | settled phase _ _ _ settles => exact settles.reports (.inr phase)
  | passed _ _ _ _ settles serves =>
    obtain ⟨rfl, rfl, -⟩ := settles.of_none
    exact serves.reports rfl

end

/-! ### What a pull tells -/

/-- What others may do to a stream while a call waits for it: they feed it, close it and tear it
down. -/
inductive Meddled (id : Nat) (st : ChunkStream) : ChunkStream → Prop
  | same : Meddled id st st
  | push {members st' st'' s s'} (before : Meddled id st st') (pushes : Pushes members st' s st'' s') :
      Meddled id st st''
  | close {fault st' st'' s s'} (before : Meddled id st st') (closes : Closes fault st' s st'' s') :
      Meddled id st st''
  | abort {fault r st' st'' s s'} (before : Meddled id st st')
      (aborts : Aborts id fault st' s r st'' s') : Meddled id st st''

theorem Meddled.orderly {id : Nat} {st st' : ChunkStream} (h : Meddled id st st')
    (orderly : st.Orderly) : st'.Orderly := by
  induction h with
  | same => exact orderly
  | push _ pushes ih => exact pushes.orderly ih
  | close _ closes ih => exact closes.orderly ih
  | abort _ aborts ih => exact aborts.orderly ih

/-- What a stream is like when a pull has delivered or raised something. -/
inductive Told (st : ChunkStream) : Except Fault (Option Value) → Prop
  | chunk {v} (live : st.Live) : Told st (.ok (some v))
  | complete (complete : st.Complete) : Told st (.ok none)
  | verdict {fault} (erred : st.Errored fault) : Told st (.error (leavingCoroutine fault))
  | cancelled {e} (cancellation : e.isA .cancelled) : Told st (.error e)
  | midway {e} (live : st.Live) (other : ¬ e.isA .stopAsyncIteration) : Told st (.error e)

theorem Told.pulled {st : ChunkStream} {r : Except Fault (Option Value)} (h : st.Told r)
    {waiter : Option Nat} {demand : Option Int} {pulling : Bool} :
    ({ st with waiter, demand, pulling } : ChunkStream).Told r := by
  cases h with
  | chunk live => exact .chunk live
  | complete complete =>
    exact .complete ⟨complete.phase, complete.closed, complete.queue, complete.closeFault⟩
  | verdict erred => exact .verdict ⟨erred.phase, erred.fault, erred.queue, erred.closed⟩
  | cancelled cancellation => exact .cancelled cancellation
  | midway live other => exact .midway live other

theorem Raises.told {st : ChunkStream} {e : Fault} (h : st.Raises e) :
    st.Told (.error (leavingCoroutine e)) := by
  cases h with
  | verdict erred => exact .verdict erred
  | midway live other => exact .midway live fun signal => other (Fault.of_leavingCoroutine signal)

/-- What a call that reads a stream tells of it: that it finishes means that the stream is complete,
and the fault that the stream has failed with is raised, unless it is the signal for the end of an
asynchronous loop or the call is cancelled. -/
structure Truthful {α : Type} (st : ChunkStream) (finishes : Prop) (r : Except Fault α) : Prop where
  complete : finishes → st.Complete ∨ ∃ fault, st.Errored fault ∧ fault.isA .stopAsyncIteration
  raises : ∀ fault, st.Errored fault → ¬ fault.isA .stopAsyncIteration →
    ∃ e, r = .error e ∧ (e = leavingCoroutine fault ∨ e.isA .cancelled)

section

variable {α : Type} {st : ChunkStream} {finishes : Prop} {fault e : Fault} {r : Except Fault α}

theorem Errored.unique {fault' : Fault} (h : st.Errored fault) (h' : st.Errored fault') :
    fault = fault' :=
  Option.some.inj (h.fault.symm.trans h'.fault)

theorem Live.truthful (live : st.Live) (unfinished : ¬ finishes) : st.Truthful finishes r :=
  ⟨fun done => absurd done unfinished, fun _ erred => absurd erred live.not_errored⟩

theorem Complete.truthful (complete : st.Complete) : st.Truthful finishes r :=
  ⟨fun _ => .inl complete, fun _ erred => absurd erred complete.not_errored⟩

/-- A pull raises the signal for the end of an asynchronous loop only if the stream has failed with
it. -/
theorem Told.signal (told : st.Told (.error e)) (signal : e.isA .stopAsyncIteration) :
    ∃ fault, st.Errored fault ∧ fault.isA .stopAsyncIteration := by
  cases told with
  | verdict erred => exact ⟨_, erred, Fault.of_leavingCoroutine signal⟩
  | cancelled cancellation =>
    exact absurd signal (Fault.not_stopAsyncIteration_of_cancelled cancellation)
  | midway _ other => exact absurd signal other

/-- Raising what a pull has raised is truthful. -/
theorem Told.truthful (told : st.Told (.error e)) (stops : finishes → e.isA .stopAsyncIteration) :
    st.Truthful finishes (.error e : Except Fault α) := by
  refine ⟨fun done => .inr (told.signal (stops done)), fun fault erred _ => ⟨e, rfl, ?_⟩⟩
  cases told with
  | verdict erred' => exact .inl (by rw [erred.unique erred'])
  | cancelled cancellation => exact .inr cancellation
  | midway live => exact absurd erred live.not_errored

/-- Taking the signal for the end of an asynchronous loop for the end is truthful, so to speak. -/
theorem Told.truthful_signal (told : st.Told (.error e)) (signal : e.isA .stopAsyncIteration) :
    st.Truthful finishes r := by
  obtain ⟨fault, erred, stops⟩ := told.signal signal
  refine ⟨fun _ => .inr ⟨fault, erred, stops⟩, fun fault' erred' other => ?_⟩
  exact absurd (erred'.unique erred ▸ stops) other

/-- A call that goes on from what was gathered and raises what was raised is as truthful. -/
theorem Truthful.forward {β : Type} {before : Prop} {r' : Except Fault β}
    (h : st.Truthful before r) (goes : finishes → before)
    (raises : ∀ e, r = .error e → r' = .error e) : st.Truthful finishes r' := by
  refine ⟨fun done => h.complete (goes done), fun fault erred other => ?_⟩
  obtain ⟨e, raised, which⟩ := h.raises fault erred other
  exact ⟨e, raises e raised, which⟩

end

end ChunkStream

/-- From `s` to `s'` others do no more to the stream `id` than feed it, close it and tear it down. -/
def Store.Meddles (id : Nat) (s s' : Store) : Prop :=
  ∀ st, s.streams[id]? = some st → ∃ st', s'.streams[id]? = some st' ∧ ChunkStream.Meddled id st st'

/-- A call finishes as if the stream was at its end: it is through with it, or it raises the signal
for the end of the loop that it is a step of. -/
def StreamCall.Finishes : StreamCall → Except Fault Value → Prop
  | .pull _, _ => False
  | .next, r => ∃ e, r = .error e ∧ e.isA .stopAsyncIteration
  | _, r => ∃ v, r = .ok v

/-- The stream `id` is there and in order, and no pull of it is under way. -/
structure Store.Rests (id : Nat) (st : ChunkStream) (s : Store) : Prop where
  there : s.streams[id]? = some st
  orderly : st.Orderly
  pulling : st.pulling = false
  waiter : st.waiter = none

namespace ChunkStream

variable {id : Nat} {size : Option Int} {st : ChunkStream} {s s' : Store}

theorem told_pullWithin {rounds : Nat} {r : Except Fault (Option Value)}
    (run : (pullWithin id size rounds).RunsInLoop (Store.Meddles id) s r s')
    (there : s.streams[id]? = some st) (orderly : st.Orderly) (waiter : st.waiter = none) :
    ∃ st', s'.streams[id]? = some st' ∧ st'.Orderly ∧ st'.waiter = none ∧
      st'.Told (r.mapError leavingCoroutine) := by
  induction rounds generalizing s st with
  | zero => cases run
  | succ rounds ih =>
    obtain ⟨r₁, st₁, s₁, does⟩ : ∃ r₁ st₁ s₁,
      (advance (Store.surroundings id) size).does st s = (r₁, st₁, s₁) := ⟨_, _, _, rfl⟩
    have advances := advances_of_does id size st s orderly.calm does
    have reports := advances.reports orderly
    have orderly₁ := reports.orderly (advances.proceeds orderly.coherent).coherent
    have lt : id < s₁.streams.size := by
      rw [(advances.apart waiter).streams]
      exact (Array.getElem?_eq_some_iff.mp there).1
    have waiter₁ : st₁.waiter = none := advances.samePull.1.trans waiter
    have stops := Pull.upTo_pullWithin rounds there lt does
    cases reports with
    | chunk live =>
      obtain ⟨rfl, rfl⟩ := Process.RunsInLoop.of_done run stops
      exact ⟨st₁, Store.streams_setStream st₁ lt, orderly₁, waiter₁, .chunk live⟩
    | ended complete =>
      obtain ⟨rfl, rfl⟩ := Process.RunsInLoop.of_done run stops
      exact ⟨st₁, Store.streams_setStream st₁ lt, orderly₁, waiter₁, .complete complete⟩
    | fault raises =>
      obtain ⟨rfl, rfl⟩ := Process.RunsInLoop.of_done run stops
      exact ⟨st₁, Store.streams_setStream st₁ lt, orderly₁, waiter₁, raises.told⟩
    | wait live =>
      obtain ⟨thrown, s₂, others, passed, rest⟩ := Process.RunsInLoop.of_waiting run stops
      obtain ⟨st₂, there₂, meddled⟩ := others _ (Store.streams_setStream _ (by
        show id < (s₁.streams.setIfInBounds id st₁).size
        rwa [Array.size_setIfInBounds]))
      have orderly₂ := meddled.orderly orderly₁.pulled
      have lt₂ := (Array.getElem?_eq_some_iff.mp there₂).1
      have wakes := Pull.upTo_woken there₂ s₁.futures.size thrown
      rcases Run.RunsInLoop.of_bind rest with ⟨_, s₃, woken, rest⟩ | ⟨fault, rfl, woken⟩
      · obtain ⟨-, rfl⟩ := Process.RunsInLoop.of_done woken wakes
        exact ih rest (Store.streams_setStream _ lt₂) orderly₂.pulled rfl
      · obtain ⟨raised, rfl⟩ := Process.RunsInLoop.of_done woken wakes
        refine ⟨_, Store.streams_setStream _ lt₂, orderly₂.pulled, rfl, ?_⟩
        cases passed with
        | finished progress =>
          unfold Pull.outcome at raised
          rw [progress] at raised
          cases raised
        | cancelled cancellation =>
          cases raised
          refine .cancelled ?_
          rwa [Fault.leavingCoroutine_of_cancelled cancellation]

theorem told_pull {r : Except Fault (Option Value)}
    (run : (pull id size).RunsInLoop (Store.Meddles id) s r s') (rests : s.Rests id st) :
    ∃ st', s'.Rests id st' ∧ st'.Told r := by
  have begins : (Run.act (Store.onStream id fun _ => beginPull)).upTo s =
      (.done (.ok ()), s.setStream id { st with pulling := true }) := by
    refine Run.upTo_onStream rests.there ?_
    unfold beginPull
    simp [StreamM.does_bind, rests.pulling]
  have lt := (Array.getElem?_eq_some_iff.mp rests.there).1
  rcases Run.RunsInLoop.of_bind run with ⟨_, s₁, begun, run⟩ | ⟨fault, rfl, begun⟩
  · obtain ⟨-, rfl⟩ := Process.RunsInLoop.of_done begun begins
    obtain ⟨chunk, s₂, ends, last⟩ := Run.RunsInLoop.of_attempt run
    obtain ⟨rfl, rfl⟩ := Run.RunsInLoop.of_ofExcept last
    obtain ⟨chunk', s₃, within, ends⟩ := Run.RunsInLoop.of_attempt ends
    obtain ⟨st₁, there₁, orderly₁, waiter₁, told⟩ :=
      told_pullWithin within (Store.streams_setStream _ lt) rests.orderly.pulled rests.waiter
    have leaves : (Run.act (Store.onStream id fun _ => endPull)).upTo s₃ =
        (.done (.ok ()), s₃.setStream id { st₁ with pulling := false, demand := none }) :=
      Run.upTo_onStream there₁ rfl
    have lt₁ := (Array.getElem?_eq_some_iff.mp there₁).1
    rcases Run.RunsInLoop.of_bind ends with ⟨_, s₄, left, last⟩ | ⟨fault, rfl, left⟩
    · obtain ⟨-, rfl⟩ := Process.RunsInLoop.of_done left leaves
      obtain ⟨rfl, rfl⟩ := Run.RunsInLoop.of_ofExcept last
      exact ⟨_, ⟨Store.streams_setStream _ lt₁, orderly₁.pulled, rfl, waiter₁⟩, told.pulled⟩
    · cases (Process.RunsInLoop.of_done left leaves).1
  · cases (Process.RunsInLoop.of_done begun begins).1

theorem truthful_pullInLoop {r : Except Fault (Option Value)}
    (run : (pullInLoop id).RunsInLoop (Store.Meddles id) s r s') (rests : s.Rests id st) :
    ∃ st', s'.Rests id st' ∧ st'.Truthful (r = .ok none) r := by
  obtain ⟨chunk, s₁, pulls, rest⟩ := Run.RunsInLoop.of_attempt run
  obtain ⟨st', rests', told⟩ := told_pull pulls rests
  cases chunk with
  | ok chunk =>
    obtain ⟨rfl, rfl⟩ := Run.RunsInLoop.of_pure rest
    cases told with
    | chunk live => exact ⟨st', rests', live.truthful nofun⟩
    | complete complete => exact ⟨st', rests', complete.truthful⟩
  | error e =>
    dsimp only at rest
    split at rest
    · next signal =>
      obtain ⟨rfl, rfl⟩ := Run.RunsInLoop.of_pure rest
      exact ⟨st', rests', told.truthful_signal signal⟩
    · obtain ⟨rfl, rfl⟩ := Run.RunsInLoop.of_throw rest
      exact ⟨st', rests', told.truthful nofun⟩

section

variable {α : Type} (f : Heap → Value → Except Fault α)

theorem truthful_gatherOnto {rounds : Nat} {parts : List α} {r : Except Fault (List α)}
    (run : (gatherOnto id f parts rounds).RunsInLoop (Store.Meddles id) s r s')
    (rests : s.Rests id st) : ∃ st', s'.Rests id st' ∧ st'.Truthful (∃ parts', r = .ok parts') r := by
  induction rounds generalizing parts s st with
  | zero => cases run
  | succ rounds ih =>
    rcases Run.RunsInLoop.of_bind run with ⟨chunk, s₁, pulls, rest⟩ | ⟨fault, rfl, pulls⟩
    · obtain ⟨st₁, rests₁, truthful⟩ := truthful_pullInLoop pulls rests
      cases chunk with
      | none =>
        obtain ⟨rfl, rfl⟩ := Run.RunsInLoop.of_pure rest
        exact ⟨st₁, rests₁, truthful.forward (fun _ => rfl) nofun⟩
      | some chunk =>
        rcases Run.RunsInLoop.of_bind rest with ⟨part, s₂, views, later⟩ | ⟨fault, rfl, views⟩
        · obtain ⟨-, rfl⟩ := Run.RunsInLoop.of_act views
          exact ih later rests₁
        · obtain ⟨-, rfl⟩ := Run.RunsInLoop.of_act views
          exact ⟨st₁, rests₁, truthful.forward nofun nofun⟩
    · obtain ⟨st₁, rests₁, truthful⟩ := truthful_pullInLoop pulls rests
      exact ⟨st₁, rests₁, truthful.forward nofun fun e same => by cases same; rfl⟩

/-- Whatever is made of the chunks of a stream, it is made of all of them or the fault of the stream
is raised. -/
theorem truthful_gather {k : List α → Run Value} {r : Except Fault Value}
    (run : (gather id f >>= k).RunsInLoop (Store.Meddles id) s r s') (rests : s.Rests id st)
    (keeps : ∀ parts s₁ r s', (k parts).RunsInLoop (Store.Meddles id) s₁ r s' →
      s'.streams = s₁.streams) :
    ∃ st', s'.Rests id st' ∧ st'.Truthful (∃ v, r = .ok v) r := by
  have gathers : (gatherOnto id f [] patience >>= fun parts => k parts.reverse).RunsInLoop
      (Store.Meddles id) s r s' := by
    unfold gather at run
    rwa [bind_assoc] at run
  rcases Run.RunsInLoop.of_bind gathers with ⟨parts, s₁, gathered, last⟩ | ⟨fault, rfl, gathered⟩
  · obtain ⟨st', rests', truthful⟩ := truthful_gatherOnto f gathered rests
    refine ⟨st', ⟨?_, rests'.orderly, rests'.pulling, rests'.waiter⟩,
      truthful.forward (fun _ => ⟨_, rfl⟩) nofun⟩
    rw [keeps _ s₁ r s' last]
    exact rests'.there
  · obtain ⟨st', rests', truthful⟩ := truthful_gatherOnto f gathered rests
    exact ⟨st', rests', truthful.forward nofun fun e same => by cases same; rfl⟩

end

/-- In whatever a call comes to, it is truthful about the stream. -/
theorem consume_truthful (call : StreamCall) {r : Except Fault Value}
    (run : (consume id call).RunsInLoop (Store.Meddles id) s r s') (rests : s.Rests id st) :
    ∃ st', s'.Rests id st' ∧ st'.Truthful (call.Finishes r) r := by
  cases call with
  | pull size =>
    rcases Run.RunsInLoop.of_bind run with ⟨chunk, s₁, pulls, last⟩ | ⟨fault, rfl, pulls⟩
    · obtain ⟨st', rests', told⟩ := told_pull pulls rests
      obtain ⟨rfl, rfl⟩ := Run.RunsInLoop.of_pure last
      cases told with
      | chunk live => exact ⟨st', rests', live.truthful not_false⟩
      | complete complete => exact ⟨st', rests', complete.truthful⟩
    · obtain ⟨st', rests', told⟩ := told_pull pulls rests
      exact ⟨st', rests', told.truthful False.elim⟩
  | next =>
    rcases Run.RunsInLoop.of_bind run with ⟨chunk, s₁, pulls, last⟩ | ⟨fault, rfl, pulls⟩
    · obtain ⟨st', rests', told⟩ := told_pull pulls rests
      cases told with
      | chunk live =>
        obtain ⟨rfl, rfl⟩ := Run.RunsInLoop.of_pure last
        exact ⟨st', rests', live.truthful nofun⟩
      | complete complete =>
        obtain ⟨rfl, rfl⟩ := Run.RunsInLoop.of_throw last
        exact ⟨st', rests', complete.truthful⟩
    · obtain ⟨st', rests', told⟩ := told_pull pulls rests
      refine ⟨st', rests', told.truthful ?_⟩
      rintro ⟨_, ⟨⟩, signal⟩
      exact signal
  | collect =>
    refine truthful_gather _ run rests fun parts s₁ r s' last => ?_
    rw [(Run.RunsInLoop.of_act last).2]
    rfl
  | readText encoding =>
    refine truthful_gather _ run rests fun parts s₁ r s' last => ?_
    rw [(Run.RunsInLoop.of_pure last).2]
  | readBytes encoding =>
    refine truthful_gather _ run rests fun parts s₁ r s' last => ?_
    rw [(Run.RunsInLoop.of_pure last).2]

/-- A text is queued in a stream that was closed with a fault: collecting the chunks raises it. -/
theorem collect_raises : ∃ s s' st e, s.Rests 0 st ∧
    (consume 0 .collect).RunsInLoop (Store.Meddles 0) s (.error e) s' ∧
    ∃ st', s'.Rests 0 st' ∧
      st'.Truthful (StreamCall.collect.Finishes (.error e)) (.error e : Except Fault Value) := by
  let st : ChunkStream :=
    { queue := .ofList [⟨.literal, .text "a"⟩], closed := true
      closeFault := some (.say .value "boom") }
  let s : Store := { streams := #[st] }
  have rests : s.Rests 0 st := ⟨rfl, ⟨.idle rfl ⟨rfl, rfl, rfl⟩ rfl, nofun⟩, rfl, rfl⟩
  have run : (consume 0 .collect).RunsInLoop (Store.Meddles 0) s (.error (.say .value "boom")) _ :=
    Process.RunsInLoop.of_run rfl
  exact ⟨s, _, st, _, rests, run, consume_truthful .collect run rests⟩

end ChunkStream

end StreamTemplate
