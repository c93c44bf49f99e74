import StreamTemplate.Proofs.Stream.Advance

/-!
# What an advance leaves alone

While a pull goes as far as it can, nothing happens to other tasks, to the heap or to other streams;
only coroutines in the queue of a stream that fails are closed. The stream listens to whatever it
leaves in flight, and if the pull has to wait there is a reason for it.
-/

namespace StreamTemplate

namespace ChunkStream

/-! ### What an advance leaves alone -/

/-- From `s` to `s'` the heap, the streams, generators and what is ready stay as they are, the stream `id`
listens to what it likes, and the coroutines among `vs` may be closed. -/
structure Apart (id : Nat) (vs : List Value) (s s' : Store) : Prop where
  heap : s'.heap = s.heap
  streams : s'.streams = s.streams
  spares : s.Spares (· ≠ .stream id) (fun _ => True) (fun c => .process .coroutine c ∉ vs) s'
  leaves : s.Leaves s'

namespace Apart

variable {id : Nat} {vs : List Value} {s s' s'' : Store}

theorem refl (s : Store) : Apart id vs s s :=
  ⟨rfl, rfl, .refl s, .refl s⟩

theorem trans (h : Apart id vs s s') (h' : Apart id vs s' s'') : Apart id vs s s'' :=
  ⟨h'.heap.trans h.heap, h'.streams.trans h.streams, h.spares.trans h'.spares, h.leaves.trans h'.leaves⟩

theorem mono {vs' : List Value} (h : Apart id vs s s') (sub : vs ⊆ vs') : Apart id vs' s s' :=
  ⟨h.heap, h.streams, h.spares.mono (fun _ hx => hx) (fun _ hw => hw) fun _ hc hv => hc (sub hv),
    h.leaves⟩

theorem unheard (w : Option Nat) (s : Store) : Apart id vs s (s.unheard id w) := by
  cases w with
  | none => exact refl s
  | some w => exact ⟨rfl, rfl, Store.spares_ignore w _ s fun h => h rfl, .of_same rfl rfl⟩

theorem heard (w : Nat) (s : Store) : Apart id vs s (s.heard id w) :=
  ⟨Store.heap_listen .., Store.streams_listen .., Store.spares_listen w _ s, .listen w _ s⟩

theorem newTask (coroutine : Nat) (s : Store) :
    Apart id vs s ((Store.newTask coroutine none).run s).2 :=
  ⟨rfl, rfl, Store.spares_newTask _ _ _, .newTask _ _ s⟩

theorem begun (body : Body) (s : Store) :
    Apart id vs s ((do Store.newTask (← Store.newCoroutine body) none :
      StateM Store Nat).run s).2 :=
  ⟨rfl, rfl, (Store.spares_newCoroutine body s).trans (Store.spares_newTask _ _ _),
    rfl, (Store.Leaves.newTask s.coroutines.size none s).ready⟩

theorem startAwaiting {v : Value} {w : Nat} (h : (Store.startAwaiting v).run s = (w, s')) :
    Apart id vs s s' := by
  suffices apart : Apart id vs s ((Store.startAwaiting v).run s).2 by rwa [h] at apart
  unfold Store.startAwaiting
  split
  · exact refl s
  · exact refl s
  · exact newTask _ s
  · exact begun _ s

theorem disposal {r : Except Fault Unit} (h : Store.disposal vs s = (r, s')) :
    Apart id vs s s' := by
  have spares := Store.spares_disposal (L := (· ≠ .stream id)) (T := fun _ => True)
    (C := fun c => .process .coroutine c ∉ vs) vs s fun c hc other => other hc
  obtain ⟨coroutines, eq⟩ := Store.disposal_eq vs s
  rw [h] at eq spares
  cases eq
  exact ⟨rfl, rfl, spares, .of_same rfl rfl⟩

end Apart

section

variable {id : Nat} {size : Option Int} {fault e : Fault} {source : Source} {st st' : ChunkStream}
  {s s' : Store} {p : Progress}

/-- The values of the sources to come. -/
def queued (st : ChunkStream) : List Value :=
  st.queue.toList.map (·.value)

theorem Fails.apart (h : Fails id fault st s e st' s') (waiter : st.waiter = none) :
    Apart id st.queued s s' := by
  cases h with
  | through disposed =>
    rw [waiter]
    exact (Apart.unheard ..).trans (.disposal disposed)
  | cutShort disposed => exact (Apart.unheard ..).trans (.disposal disposed)

theorem Settles.apart {r : Except Fault (Option Value)}
    (h : Settles id source st s p r st' s') (waiter : st.waiter = none) :
    Apart id st.queued s s' := by
  cases h with
  | cancelled fails | failed fails | badResult _ _ fails | badItem _ _ fails =>
    exact fails.apart waiter
  | result | item | exhausted => exact .refl s

theorem Serves.apart {r : Except Fault Advance} (h : Serves id size st s r st' s')
    (waiter : st.waiter = none) : Apart id st.queued s s' := by
  have rest {source rest} (queue : st.queue.toList = source :: rest) :
      (st.activated source rest).queued ⊆ st.queued := by
    unfold queued
    rw [queue]
    exact List.subset_cons_self ..
  cases h with
  | empty | literal | escaping => exact .refl s
  | ended =>
    rw [waiter]
    exact .refl s
  | closeFault _ _ _ fails => exact fails.apart waiter
  | awaiting queue kind begun => exact (Apart.startAwaiting begun).trans (.heard ..)
  | settled queue kind begun pending settles =>
    have taken := (settles.apart waiter).mono (rest queue)
    exact (Apart.startAwaiting begun).trans ((Apart.heard ..).trans ((Apart.unheard ..).trans taken))
  | requesting => exact (Apart.begun ..).trans (.heard ..)
  | unusable queue _ _ _ fails => exact (fails.apart waiter).mono (rest queue)

theorem Advances.apart {r : Except Fault Advance} (h : Advances id size st s r st' s')
    (waiter : st.waiter = none) : Apart id st.queued s s' := by
  cases h with
  | errored | past | adrift | pending => exact .refl s
  | idle _ serves => exact serves.apart waiter
  | requesting => exact (Apart.begun ..).trans (.heard ..)
  | orphaned => exact .unheard ..
  | settled _ _ _ _ settles => exact (Apart.unheard ..).trans (settles.apart waiter)
  | passed _ _ _ _ settles serves =>
    obtain ⟨rfl, rfl, -⟩ := settles.of_none
    exact (Apart.unheard ..).trans (serves.apart waiter)

/-- Two streams have the same pull under way, waiting for the same future. -/
def SamePull (st st' : ChunkStream) : Prop :=
  st'.waiter = st.waiter ∧ st'.pulling = st.pulling

theorem Fails.samePull (h : Fails id fault st s e st' s') : st.SamePull st' := by
  cases h <;> exact ⟨rfl, rfl⟩

theorem Settles.samePull {r : Except Fault (Option Value)} (h : Settles id source st s p r st' s') :
    st.SamePull st' := by
  cases h with
  | cancelled fails | failed fails | badResult _ _ fails | badItem _ _ fails =>
    exact fails.samePull
  | result | item | exhausted => exact ⟨rfl, rfl⟩

theorem Serves.samePull {r : Except Fault Advance} (h : Serves id size st s r st' s') :
    st.SamePull st' := by
  cases h with
  | empty | ended | literal | awaiting | requesting | escaping => exact ⟨rfl, rfl⟩
  | settled _ _ _ _ settles => exact settles.samePull
  | closeFault _ _ _ fails | unusable _ _ _ _ fails => exact fails.samePull

theorem Advances.samePull {r : Except Fault Advance} (h : Advances id size st s r st' s') :
    st.SamePull st' := by
  cases h with
  | errored | past | adrift | requesting | pending | orphaned => exact ⟨rfl, rfl⟩
  | idle _ serves => exact serves.samePull
  | settled _ _ _ _ settles => exact settles.samePull
  | passed _ _ _ _ settles serves =>
    obtain ⟨rfl, rfl, -⟩ := settles.of_none
    exact serves.samePull

theorem Fails.queued (h : Fails id fault st s e st' s') : st'.queued ⊆ st.queued := by
  cases h with
  | through => exact List.nil_subset _
  | cutShort => exact List.Subset.refl _

theorem Settles.queued {r : Except Fault (Option Value)} (h : Settles id source st s p r st' s') :
    st'.queued ⊆ st.queued := by
  cases h with
  | cancelled fails | failed fails | badResult _ _ fails | badItem _ _ fails =>
    exact fails.queued
  | result | item | exhausted => exact List.Subset.refl _

theorem Serves.queued {r : Except Fault Advance} (h : Serves id size st s r st' s') :
    st'.queued ⊆ st.queued := by
  have rest {source rest} (queue : st.queue.toList = source :: rest) :
      rest.map (·.value) ⊆ st.queued := by
    unfold ChunkStream.queued
    rw [queue]
    exact List.subset_cons_self ..
  cases h with
  | empty | ended => exact List.Subset.refl _
  | literal queue | awaiting queue | requesting queue | escaping queue => exact rest queue
  | settled queue _ _ _ settles => exact List.Subset.trans settles.queued (rest queue)
  | closeFault _ _ _ fails => exact fails.queued
  | unusable queue _ _ _ fails => exact List.Subset.trans fails.queued (rest queue)

theorem Advances.queued {r : Except Fault Advance} (h : Advances id size st s r st' s') :
    st'.queued ⊆ st.queued := by
  cases h with
  | errored | past | adrift | requesting | pending | orphaned => exact List.Subset.refl _
  | idle _ serves => exact serves.queued
  | settled _ _ _ _ settles => exact settles.queued
  | passed _ _ _ _ settles serves =>
    obtain ⟨rfl, rfl, -⟩ := settles.of_none
    exact serves.queued

/-! ### Why a pull waits -/

/-- The stream listens to the work that it has in flight. -/
def Attentive (id : Nat) (st : ChunkStream) (s : Store) : Prop :=
  ∀ w, st.inflight = some w → w < s.futures.size ∧ (s.isPending w → s.Told (.stream id) w)

/-- A pull can do nothing but wait: nothing is queued and more may come, or the work in flight is
not done. -/
def AtRest (st : ChunkStream) (s : Store) : Prop :=
  (st.phase = .idle ∧ st.closed = false ∧ st.queue.toList = []) ∨
    (st.phase = .draining ∧ ∃ w, st.inflight = some w ∧ s.isPending w)

theorem told_heard {w : Nat} (pending : (s.heard id w).isPending w) :
    (s.heard id w).Told (.stream id) w := by
  refine Store.told_listen _ ?_
  rw [← Store.size_listen]
  exact Store.lt_size_of_isPending pending

theorem Attentive.of_told {w : Nat} (inflight : st.inflight = some w)
    (told : s.Told (.stream id) w) : Attentive id st s := by
  intro w' h
  cases inflight.symm.trans h
  exact ⟨told.lt_size, fun _ => told⟩

theorem Attentive.of_none (inflight : st.inflight = none) : Attentive id st s := by
  intro w h
  rw [inflight] at h
  cases h

theorem Fails.inflight (h : Fails id fault st s e st' s') : st'.inflight = none := by
  cases h <;> rfl

theorem Settles.inflight {r : Except Fault (Option Value)} (h : Settles id source st s p r st' s')
    (inflight : st.inflight = none) : st'.inflight = none := by
  cases h with
  | cancelled fails | failed fails | badResult _ _ fails | badItem _ _ fails =>
    exact fails.inflight
  | result | item | exhausted => exact inflight

theorem Serves.calm {r : Except Fault Advance} (h : Serves id size st s r st' s')
    (inflight : st.inflight = none) : st'.Calm := by
  cases h with
  | empty | ended | literal | escaping => exact fun _ => inflight
  | awaiting | requesting => nofun
  | settled _ _ _ _ settles => exact fun _ => settles.inflight rfl
  | closeFault _ _ _ fails | unusable _ _ _ _ fails => exact fun _ => fails.inflight

theorem Advances.calm {r : Except Fault Advance} (h : Advances id size st s r st' s')
    (calm : st.Calm) : st'.Calm := by
  cases h with
  | errored | past | adrift => exact calm
  | idle phase serves => exact serves.calm (calm phase)
  | requesting phase | pending phase =>
    intro idle
    cases phase.symm.trans idle
  | orphaned => exact fun _ => rfl
  | settled _ _ _ _ settles => exact fun _ => settles.inflight rfl
  | passed _ _ _ _ settles serves =>
    obtain ⟨rfl, rfl, -⟩ := settles.of_none
    exact serves.calm rfl

theorem Serves.attentive {r : Except Fault Advance} (h : Serves id size st s r st' s')
    (inflight : st.inflight = none) : Attentive id st' s' := by
  cases h with
  | empty | ended | literal | escaping => exact .of_none inflight
  | awaiting _ _ _ pending => exact .of_told rfl (told_heard pending)
  | settled _ _ _ _ settles => exact .of_none (settles.inflight rfl)
  | requesting => exact .of_told rfl (told_heard (s.isPending_asked ..))
  | closeFault _ _ _ fails | unusable _ _ _ _ fails => exact .of_none fails.inflight

theorem Advances.attentive {r : Except Fault Advance} (h : Advances id size st s r st' s')
    (calm : st.Calm) (attentive : Attentive id st s) :
    Attentive id st' s' := by
  cases h with
  | errored | past | adrift => exact attentive
  | idle phase serves => exact serves.attentive (calm phase)
  | requesting => exact .of_told rfl (told_heard (s.isPending_asked ..))
  | pending _ inflight =>
    rintro w h
    cases h
    exact attentive _ inflight
  | orphaned => exact .of_none rfl
  | settled _ _ _ _ settles => exact .of_none (settles.inflight rfl)
  | passed _ _ _ _ settles serves =>
    obtain ⟨rfl, rfl, -⟩ := settles.of_none
    exact serves.attentive rfl

theorem Serves.atRest (h : Serves id size st s (.ok .wait) st' s') (phase : st.phase = .idle) :
    st'.AtRest s' := by
  generalize hr : (.ok .wait : Except Fault Advance) = r at h
  cases h with
  | empty queue closed => exact .inl ⟨phase, closed, queue⟩
  | awaiting _ _ _ pending => exact .inr ⟨rfl, _, rfl, pending⟩
  | requesting => exact .inr ⟨rfl, _, rfl, s.isPending_asked ..⟩
  | @settled _ _ _ _ r => cases r <;> cases hr
  | ended | closeFault | literal | unusable | escaping => cases hr

theorem Advances.atRest (h : Advances id size st s (.ok .wait) st' s') : st'.AtRest s' := by
  generalize hr : (.ok .wait : Except Fault Advance) = r at h
  cases h with
  | idle phase serves =>
    subst hr
    exact serves.atRest phase
  | requesting phase => exact .inr ⟨phase, _, rfl, s.isPending_asked ..⟩
  | pending phase inflight pending => exact .inr ⟨phase, _, rfl, pending⟩
  | @settled _ _ r => cases r <;> cases hr
  | passed _ _ _ _ settles serves =>
    subst hr
    obtain ⟨rfl, rfl, -⟩ := settles.of_none
    exact serves.atRest rfl
  | errored | past | adrift | orphaned => cases hr

/-- The stream has a reason to keep a pull waiting, and is told when the reason is gone. -/
def Alert (id : Nat) (st : ChunkStream) (s : Store) : Prop :=
  (st.phase = .idle ∧ st.closed = false ∧ st.queue.toList = []) ∨
    (st.phase = .draining ∧ ∃ w, st.inflight = some w ∧ s.Told (.stream id) w)

theorem Alert.spared (h : st.Alert id s)
    (told : ∀ w, st.inflight = some w → s.Told (.stream id) w → s'.Told (.stream id) w) :
    st.Alert id s' := by
  rcases h with idle | ⟨phase, w, inflight, listens⟩
  · exact .inl idle
  · exact .inr ⟨phase, w, inflight, told w inflight listens⟩

theorem Advances.alert (h : Advances id size st s (.ok .wait) st' s') (calm : st.Calm)
    (attentive : Attentive id st s) : st'.Alert id s' := by
  rcases h.atRest with idle | ⟨phase, w, inflight, pending⟩
  · exact .inl idle
  · exact .inr ⟨phase, w, inflight, (h.attentive calm attentive w inflight).2 pending⟩

theorem Attentive.spared {L : Listener → Prop} {T C : Nat → Prop} (h : Attentive id st s)
    (spares : s.Spares L T C s') (listens : L (.stream id)) : Attentive id st s' := by
  intro w inflight
  obtain ⟨lt, told⟩ := h w inflight
  refine ⟨Nat.lt_of_lt_of_le lt spares.futures, fun pending => ?_⟩
  exact spares.told _ _ listens (told (spares.isPending lt pending))

end

end ChunkStream

end StreamTemplate
