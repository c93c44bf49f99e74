import Mathlib.Data.List.Forall2
import StreamTemplate.Proofs.Stream.Moves
import StreamTemplate.Proofs.Stream.Reach

/-!
# The order of the output

Whatever happens to a stream, what its pulls have returned is a first part of what its sources emit,
one source after the other, and the end comes only when the stream was closed without a fault and
everything has been returned.
-/

namespace StreamTemplate

open Pull (Call Turn Stretch Outcome Kept Tended)
open ChunkStream (Place Brings)
open Accepted (slotsOf assign assign_nil)

/-- A chunk is a value as it is emitted while the heap is as it is. -/
def Emits (raw : Value) (p : Value × Heap) : Prop :=
  p.1 = p.2.normalize raw

/-- The output of a stream is in order: the slots that are over with have yielded what was
returned. -/
structure InOrder (g : Ledger) (st : ChunkStream) (s : Store) (done : List Slot) : Prop where
  place : Place g.closing g.accepted st done
  past : ∀ slot ∈ done, slot.Over s
  returned : List.Forall₂ Emits (done.flatMap (·.yield s)) g.returned
  ended : g.ended → st.phase = .ended

/-- A chunk that comes out is never nothing. -/
theorem Heap.normalize_ne_none (heap : Heap) (v : Value) : heap.normalize v ≠ .none := by
  unfold Heap.normalize
  split
  · rintro rfl
    contradiction
  · unfold Value.emptyChunk
    split <;> nofun

/-! ### What a turn brings -/

/-- What a call delivers, when the slots in between yield so. -/
def Pull.Outcome.Yields (st : ChunkStream) (heap : Heap) (raws : List Value) : Outcome → Prop
  | .ended (.ok v) => (raws = [] ∧ v = .none ∧ st.phase = .ended) ∨
      ∃ raw, raws = [raw] ∧ v = heap.normalize raw
  | _ => raws = []

/-- Takes down what a call delivers. -/
def Pull.Outcome.note (heap : Heap) (g : Ledger) : Outcome → Ledger
  | .ended (.ok v) => g.deliver heap v
  | _ => g

section

variable {id c : Nat} {size : Option Int} {l l' : EventLoop} {g g' : Ledger} {a : Call}
  {st st' : ChunkStream} {s s' s₁ s₂ : Store} {done : List Slot} {out : Outcome}

theorem begun_between (before : s.Grows s₁) (none : s.begun s₁ = []) (grows : s₁.Grows s₂)
    (after : s₂.Grows s') (none' : s₂.begun s' = []) : s.begun s' = s₁.begun s₂ := by
  rw [before.begun_trans (grows.trans after), none, grows.begun_trans after, none',
    List.nil_append, List.append_nil]

/-- What is begun in a turn of a call is begun while the pull goes on. -/
theorem Pull.Turn.stretches (h : Turn id a st l out st' l') :
    ∃ s s', Pull.Tended a l.store s ∧ Stretch id a.size a.coroutine st s out st' s' ∧
      Pull.Tended a s' l'.store ∧ l.store.begun l'.store = s.begun s' := by
  obtain ⟨s, s', before, stretch, after⟩ := h.passes
  exact ⟨s, s', before, stretch, after, begun_between before.spares.grows before.begun
    stretch.spares.2.grows after.spares.grows after.begun⟩

/-- Slots yield the same, and bring the same, in a store that comes later. -/
theorem Pull.Outcome.Yields.grows {new : List Slot} (past : ∀ slot ∈ new, slot.Over s)
    (h : out.Yields st s.heap (new.flatMap (·.yield s))) (grows : s.Grows s')
    (heap : s'.heap = s.heap) :
    (∀ slot ∈ new, slot.Over s') ∧ out.Yields st s'.heap (new.flatMap (·.yield s')) := by
  obtain ⟨past', same⟩ := yields_grows past grows
  rw [heap, same]
  exact ⟨past', h⟩

/-- A stretch of a pull moves the place of the stream by slots that yield what comes of it. -/
theorem Pull.Stretch.reaches {closing : Option (Option Fault)} {accepted : List Accepted}
    (h : Stretch id size c st s out st' s') (place : Place closing accepted st done)
    (calm : st.Calm) :
    ∃ new, Place closing (assign accepted st'.pending (s.begun s')) st' (done ++ new) ∧
      (∀ slot ∈ new, slot.Over s') ∧ out.Yields st' s'.heap (new.flatMap (·.yield s')) := by
  have idle (kept : Kept c s s') {st' : ChunkStream} (place : Place closing accepted st' done) :
      Place closing (assign accepted st'.pending (s.begun s')) st' (done ++ []) := by
    rwa [kept.begun, assign_nil, List.append_nil]
  have went {s₁ s₂ : Store} {r : Except Fault ChunkStream.Advance} {st₂ : ChunkStream}
      (before : Kept c s s₁) (advances : ChunkStream.Advances id size
        { st with waiter := none, pulling := true } s₁ r st₂ s₂) (after : Kept c s₂ s') :
      s.begun s' = s₁.begun s₂ :=
    begun_between before.spares.grows before.begun (advances.apart rfl).spares.grows
      after.spares.grows after.begun
  cases h with
  | refused kept => exact ⟨[], idle kept place, nofun, rfl⟩
  | interrupted kept | stuck _ kept => exact ⟨[], idle kept place.pulled, nofun, rfl⟩
  | @served s₁ r r' st₂ s₂ _ before advances ends after =>
    obtain ⟨new, place', past, brings⟩ := advances.reaches place.pulled calm rfl
    refine ⟨new, ?_, ?_⟩
    · rw [went before advances after]
      exact place'.pulled
    · refine Outcome.Yields.grows past ?_ after.spares.grows after.heap
      cases ends with
      | fault => exact brings
      | chunk => exact .inr brings
      | past => exact .inl ⟨brings, rfl, advances.ended⟩
  | @waits s₁ st₂ s₂ _ rounds before advances after =>
    obtain ⟨new, place', past, brings⟩ := advances.reaches place.pulled calm rfl
    refine ⟨new, ?_, ?_⟩
    · rw [went before advances after]
      exact place'.pulled
    · have yields : Outcome.Yields st₂ s₂.heap (new.flatMap (·.yield s₂))
        (.waits s₂.futures.size rounds) := brings
      exact yields.grows past after.spares.grows after.heap

/-- A turn of a call moves the place of the stream by slots that yield what comes of it. -/
theorem Pull.Turn.reaches {closing : Option (Option Fault)} {accepted : List Accepted}
    (h : Turn id a st l out st' l') (place : Place closing accepted st done) (calm : st.Calm) :
    ∃ new, Place closing (assign accepted st'.pending (l.store.begun l'.store)) st' (done ++ new) ∧
      (∀ slot ∈ new, slot.Over l'.store) ∧
      out.Yields st' l'.store.heap (new.flatMap (·.yield l'.store)) := by
  obtain ⟨s, s', before, stretch, after, begun⟩ := h.stretches
  obtain ⟨new, place', past, yields⟩ := stretch.reaches place calm
  rw [begun]
  exact ⟨new, place', yields.grows past after.spares.grows after.heap⟩

/-- A pull leaves a stream that has ended as it is. -/
theorem Pull.Turn.of_ended (h : Turn id a st l out st' l') (phase : st.phase = .ended) :
    st'.phase = .ended := by
  obtain ⟨s, s', -, stretch, -⟩ := h.passes
  cases stretch with
  | refused | interrupted | stuck => exact phase
  | served _ went | waits _ went => exact went.of_ended phase

/-- What a turn of a call is in the ledger. -/
theorem Ledger.turn_of_concludes (pending : l.store.isPending a.task)
    (stream : l'.store.streams[id]? = some st') (concludes : out.Concludes id a l') (g : Ledger) :
    g.turn id a l.store l'.store = out.note l'.store.heap
      { g with accepted := assign g.accepted st'.pending (l.store.begun l'.store) } := by
  have current : Session.streamOf l'.store id = st' := by
    unfold Session.streamOf
    rw [stream]
    rfl
  have waiting (pending : l'.store.isPending a.task) (v : Value) :
      l'.store.progress a.task ≠ .finished v := by
    rw [(Store.isPending_iff ..).mp pending]
    nofun
  have other (unfinished : ∀ v, l'.store.progress a.task ≠ .finished v) :
      g.turn id a l.store l'.store =
        { g with accepted := assign g.accepted st'.pending (l.store.begun l'.store) } := by
    unfold Ledger.turn
    rw [current, pending]
    split
    · next v _ finished => exact absurd finished (unfinished v)
    · rfl
  match out, concludes with
  | .ended (.ok v), concludes =>
    unfold Ledger.turn
    rw [current, pending, concludes.1]
    rfl
  | .ended (.error e), concludes =>
    exact other fun v finished =>
      Pull.outcomeOf_error_ne_finished e v (concludes.1.symm.trans finished)
  | .stuck, concludes => exact other (waiting concludes.1)
  | .waits w rounds, waits => exact other (waiting waits.pending)

theorem Ledger.turn_of_over (past : ¬ s.isPending a.task)
    (size : s'.futures.size = s.futures.size) (g : Ledger) : g.turn id a s s' = g := by
  unfold Ledger.turn
  simp only [Store.begun_of_size size, assign_nil]
  split
  · contradiction
  · rfl

namespace InOrder

/-- The order is not affected by what changes the place by no slots. -/
theorem stays (h : InOrder g st s done) (grows : s.Grows s')
    (place : Place g'.closing g'.accepted st' done) (returned : g'.returned = g.returned)
    (ended : g'.ended = g.ended) (phase : st.phase = .ended → st'.phase = .ended) :
    InOrder g' st' s' done := by
  obtain ⟨past, same⟩ := yields_grows h.past grows
  refine ⟨place, past, ?_, fun past => phase (h.ended (ended ▸ past))⟩
  rw [same, returned]
  exact h.returned

/-- A turn of a call adds to the output what it delivers. -/
theorem turn {l₀ : EventLoop} (h : InOrder g st l₀.store done) (calm : st.Calm)
    (pending : l₀.store.isPending a.task) (turn : Turn id a st l₀ out st' l') :
    ∃ done', InOrder (g.turn id a l₀.store l'.store) st' l'.store done' := by
  obtain ⟨new, place, past, yields⟩ := turn.reaches h.place calm
  obtain ⟨kept, same⟩ := yields_grows h.past turn.spares.grows
  have ended : g.ended → st'.phase = .ended := fun past => turn.of_ended (h.ended past)
  have past' : ∀ slot ∈ done ++ new, slot.Over l'.store := by
    intro slot hs
    rcases List.mem_append.mp hs with old | fresh
    · exact kept slot old
    · exact past slot fresh
  have outcome := Ledger.turn_of_concludes pending turn.stream turn.concludes g
  have nothing (raws : new.flatMap (·.yield l'.store) = []) :
      List.Forall₂ Emits ((done ++ new).flatMap (·.yield l'.store)) g.returned := by
    rw [List.flatMap_append, same, raws, List.append_nil]
    exact h.returned
  match out, yields with
  | .ended (.ok v), .inl ⟨raws, absent, phase⟩ =>
    subst absent
    rw [outcome, Outcome.note, Ledger.deliver]
    exact ⟨done ++ new, place, past', nothing raws, fun _ => phase⟩
  | .ended (.ok v), .inr ⟨raw, raws, chunk⟩ =>
    have present : v ≠ .none := chunk ▸ Heap.normalize_ne_none l'.store.heap raw
    rw [outcome, Outcome.note, Ledger.deliver_of_ne _ _ present]
    refine ⟨done ++ new, place, past', ?_, ended⟩
    rw [List.flatMap_append, same, raws]
    exact List.rel_append h.returned (.cons chunk .nil)
  | .ended (.error _), raws | .stuck, raws | .waits _ _, raws =>
    rw [outcome]
    exact ⟨done ++ new, place, past', nothing raws, ended⟩

/-- Whatever a step is to the output, the order is kept. -/
theorem moves (h : InOrder g st l.store done) (standing : Standing id l g st)
    (grows : l.store.Grows l'.store) (moves : Standing.Moves id l g st l' g' st') :
    ∃ done', InOrder g' st' l'.store done' := by
  cases moves with
  | beside calls => exact ⟨done, h.stays grows h.place rfl rfl fun phase => phase⟩
  | @push members _ _ pushes =>
    obtain ⟨new, ledger⟩ := g.accept_eq members
    refine ⟨done, h.stays grows (h.place.push pushes) (by rw [ledger]) (by rw [ledger]) ?_⟩
    cases pushes <;> exact fun phase => phase
  | close closes =>
    refine ⟨done, h.stays grows (h.place.close closes) rfl rfl ?_⟩
    cases closes <;> exact fun phase => phase
  | @abort _ r _ _ aborts =>
    have place := h.place.abort aborts
    obtain ⟨deserted, ledger⟩ := g.abort_eq st.waiter r
    rw [ledger]
    refine ⟨done, h.stays grows place rfl rfl fun phase => ?_⟩
    cases aborts with
    | late => exact phase
    | through live | cutShort live =>
      rw [phase] at live
      exact nomatch live
  | @turn a r s _ _ _ next resumes turns =>
    obtain ⟨ready, rfl, -⟩ := Store.dequeue_eq next
    have h₁ : InOrder g st ({ l with store := { l.store with ready } } : EventLoop).store done :=
      ⟨h.place, h.past, h.returned, h.ended⟩
    cases turns with
    | past past =>
      have ledger : g.turn id a l.store { l.store with ready } = g :=
        Ledger.turn_of_over past rfl g
      rw [ledger]
      exact ⟨done, h₁⟩
    | refused _ pending _ turn => exact h₁.turn standing.calm pending turn
    | taken pending turn =>
      have pulled : InOrder g { st with waiter := none }
          ({ l with store := { l.store with ready } } : EventLoop).store done :=
        ⟨h₁.place.pulled, h₁.past, h₁.returned, h₁.ended⟩
      exact pulled.turn standing.calm pending turn

end InOrder

end

/-- Whatever course a stream takes, its output is in order. -/
theorem Course.inOrder {id : Nat} {l : EventLoop} {g : Ledger} (h : Course id l g) :
    ∃ st done, Standing id l g st ∧ InOrder g st l.store done := by
  induction h with
  | start new waiting =>
    refine ⟨_, [], .start new waiting, ?_⟩
    exact ⟨.idle rfl rfl ⟨rfl, rfl⟩ (List.nil_append _).symm rfl, nofun, .nil, nofun⟩
  | next before happens ih =>
    obtain ⟨st, done, standing, order⟩ := ih
    obtain ⟨st', standing', grows, moves⟩ := standing.happens happens
    obtain ⟨done', order'⟩ := order.moves standing grows moves
    exact ⟨st', done', standing', order'⟩

end StreamTemplate
