import StreamTemplate.Proofs.Stream.Verdict

/-!
# The last word of a stream

A call that goes on with a stream that was closed with a fault delivers the next chunk, waits for the
source whose turn it is, or raises something; it is never told of a plain end. What it raises is what
the verdict on the stream is, and after that the stream has nothing more to say.
-/

namespace StreamTemplate

open Pull (Call Turn Goes Kept Reaches Tended Outcome outcomeOf)
open ChunkStream (Pace Verdict exhausted_grows)
open Accepted (yielded assign assign_nil)

/-! ### Streams that are closed -/

@[simp]
theorem Accepted.map_source_assign (accepted : List Accepted) (pending : Nat) (work : List Nat) :
    (assign accepted pending work).map (·.source) = accepted.map (·.source) := by
  apply List.ext_getElem?
  intro i
  unfold assign
  rw [List.getElem?_map, List.getElem?_map, List.getElem?_modify]
  split <;> cases accepted[i]? <;> rfl

theorem Ledger.turn_sources (g : Ledger) (id : Nat) (a : Call) (before after : Store) :
    (g.turn id a before after).closing = g.closing ∧
      (g.turn id a before after).accepted.map (·.source) = g.accepted.map (·.source) := by
  unfold turn
  split
  · unfold deliver
    split <;> exact ⟨rfl, Accepted.map_source_assign ..⟩
  · exact ⟨rfl, Accepted.map_source_assign ..⟩

section

variable {id : Nat} {l l' : EventLoop} {g g' : Ledger} {closing : Option Fault}

/-- A stream that is closed stays closed with the same fault, and accepts nothing more. -/
theorem Happens.of_closed (h : Happens id l g l' g') (closed : g.closing = some closing) :
    g'.closing = some closing ∧ g'.accepted.map (·.source) = g.accepted.map (·.source) := by
  cases h with
  | push =>
    rw [Ledger.accept_of_closed (by rw [closed]; rfl)]
    exact ⟨closed, rfl⟩
  | close =>
    refine ⟨?_, rfl⟩
    show some (g.closing.getD _) = _
    rw [closed]
    rfl
  | abort fault =>
    obtain ⟨deserted, ledger⟩ := g.abort_eq (Session.streamOf l.store id).waiter
      (l.withStore (Store.onStream id (ChunkStream.abort · fault)).run).1
    rw [ledger]
    exact ⟨closed, rfl⟩
  | turn =>
    obtain ⟨same, sources⟩ := g.turn_sources id _ l.store _
    exact ⟨same.trans closed, sources⟩
  | call | notice | cancel | settle | outside => exact ⟨closed, rfl⟩

theorem Onward.of_closed (h : Onward id l g l' g') (closed : g.closing = some closing) :
    g'.closing = some closing ∧ g'.accepted.map (·.source) = g.accepted.map (·.source) := by
  induction h with
  | here => exact ⟨closed, rfl⟩
  | next _ happens ih =>
    obtain ⟨closed', sources⟩ := ih
    obtain ⟨closed'', sources'⟩ := happens.of_closed closed'
    exact ⟨closed'', sources'.trans sources⟩

/-- What comes of a point of a course is a course. -/
theorem Onward.course (h : Onward id l g l' g') (before : Course id l g) : Course id l' g' := by
  induction h with
  | here => exact before
  | next _ happens ih => exact ih.next happens

end

/-! ### A pull that raises something -/

theorem ChunkStream.Verdict.pulled {last fault : Fault} {accepted : List Accepted} {st : ChunkStream}
    {s : Store} {n : Nat} (h : Verdict last accepted st s n fault) {waiter : Option Nat}
    {demand : Option Int} {pulling : Bool} :
    Verdict last accepted { st with waiter, demand, pulling } s n fault := by
  cases h with
  | told exhausted count erred => exact .told exhausted count erred.pulled
  | failed split exhausted fails count erred =>
    exact .failed split exhausted fails count (erred.imp_left fun errored => errored.pulled)

section

variable {id c n : Nat} {size : Option Int} {l l' : EventLoop} {g : Ledger} {a : Call}
  {accepted : List Accepted} {st st' : ChunkStream} {s s' : Store} {out : Outcome}
  {error last fault : Fault}

/-- A stretch of a pull that raises something lets go of the stream and begins nothing; there is a
verdict on what it is, at the moment at which the pull has got to the stream. -/
theorem Pull.Goes.verdict (h : Goes id size c st s out st' s') (raises : out = .ended (.error error))
    (pace : Pace accepted st s n) (closeFault : st.closeFault = some last) (going : ¬ st.Stopped)
    (free : st.Unhindered s)
    (others : ∀ k, .process .coroutine k ∈ st.queued → k < s.coroutines.size ∧ k ≠ c) :
    st'.pulling = false ∧ s.begun s' = [] ∧ ∃ t fault, s.Grows t ∧ t.Grows s' ∧
      error = leavingCoroutine fault ∧ Verdict last accepted st' t n fault := by
  cases h with
  | waits => cases raises
  | @served s₁ r r' st₂ s₂ _ before advances ends after =>
    cases ends with
    | chunk | past => cases raises
    | fault =>
      cases raises
      have free' : ({ st with waiter := none, pulling := true } : ChunkStream).Unhindered s₁ :=
        free.spared before.spares others
      obtain ⟨still, verdict⟩ := advances.verdict rfl (pace.grows before.spares.grows).pulled
        closeFault going rfl free'
      refine ⟨rfl, ?_, s₂, _, before.spares.grows.trans still.grows, after.spares.grows, rfl,
        verdict.pulled⟩
      rw [begun_between before.spares.grows before.begun still.grows after.spares.grows after.begun]
      exact still.begun

/-- A turn of a call that raises something lets go of the stream and begins nothing, and there is a
verdict on what it is. -/
theorem Standing.verdict (h : Standing id l g st) (call : a ∈ g.calls) {r : Ready}
    (next : l.store.dequeue = some (r, s)) (resumes : r.Resumes a.task)
    (pace : Pace g.accepted st l.store n) (closeFault : st.closeFault = some last)
    (going : ¬ st.Stopped) (free : st.Unhindered l.store)
    (reaches : Reaches id a { st with waiter := none } { l with store := s } (.ended (.error error)) st'
      l') :
    st'.pulling = false ∧ l.store.begun l'.store = [] ∧ ∃ t fault, l.store.Grows t ∧
      t.Grows l'.store ∧ error = leavingCoroutine fault ∧ Verdict last g.accepted st' t n fault := by
  -- What holds of the stream is carried over to the moment at which the call gets to it.
  have taken := spares_taken next resumes
  obtain ⟨s₁, s₂, before, goes, after⟩ := reaches.goes
  have grows : l.store.Grows s₁ := taken.grows.trans before.spares.grows
  have free' : st.Unhindered s₁ :=
    (free.spared taken fun k hk => ⟨(h.foreign k hk).1, trivial⟩).spared before.spares fun k hk =>
      ⟨Nat.lt_of_lt_of_le (h.foreign k hk).1 taken.coroutines, trivial⟩
  have others (k : Nat) (hk : .process .coroutine k ∈ st.queued) :
      k < s₁.coroutines.size ∧ k ≠ a.coroutine := by
    obtain ⟨lt, other⟩ := h.foreign k hk
    exact ⟨Nat.lt_of_lt_of_le lt grows.coroutines, fun own => other ⟨a, call, own⟩⟩
  obtain ⟨let_go, begun, t, fault, first, second, raised, verdict⟩ :=
    goes.verdict rfl (pace.grows grows).pulled closeFault going free' others
  refine ⟨let_go, ?_, t, fault, grows.trans first, second.trans after.spares.grows, raised, verdict⟩
  have none : l.store.begun s₁ = [] := by
    obtain ⟨ready, rfl, -⟩ := Store.dequeue_eq next
    rw [taken.grows.begun_trans before.spares.grows, before.begun, List.append_nil]
    exact Store.begun_of_size rfl
  rw [begun_between grows none (first.trans second) after.spares.grows after.begun]
  exact begun

/-! ### Calls -/

/-- Nothing more is to come: whatever happens, nothing is returned any more, and every call that begins
raises the fault. -/
def Silent (id : Nat) (l : EventLoop) (g : Ledger) (fault : Fault) : Prop :=
  ∀ l' g', Onward id l g l' g' → g'.returned = g.returned ∧ g'.ended = g.ended ∧
    ∀ a ∈ g'.calls, ∀ r s, l'.store.dequeue = some (r, s) → a.Begins l' r →
      (EventLoop.dispatch r { l' with store := s }).store.progress a.task =
        outcomeOf (.error (leavingCoroutine fault))

/-- What comes of a call that goes on, from `l` to `l'`, with a stream that was closed with the fault
`last`. -/
inductive Pull.Call.Comes (id : Nat) (a : Call) (last : Fault) (l : EventLoop) (g : Ledger)
    (l' : EventLoop) (g' : Ledger) : Prop
  /-- It delivers the next chunk. -/
  | chunk {v} (present : v ≠ .none) (done : l'.store.progress a.task = .finished v)
      (returned : g'.returned = g.returned ++ [(v, l'.store.heap)])
  /-- It waits for the first source that is not exhausted, which has something to do yet. -/
  | waits {earlier e later m w} (split : g'.accepted = earlier ++ e :: later)
      (exhausted : ∀ e' ∈ earlier, e'.Exhausted l'.store)
      (delivers : e.Delivers l'.store m (some w)) (pending : l'.store.isPending w)
      (waiting : l'.store.isPending a.task)
  /-- It raises the fault that the stream was closed with, when all sources are exhausted and all that
  they have emitted has been returned. -/
  | told (exhausted : ∀ e ∈ g'.accepted, e.Exhausted l'.store)
      (returned : List.Forall₂ Emits (g'.accepted.flatMap (·.emissions l'.store)) g'.returned)
      (raised : l'.store.progress a.task = outcomeOf (.error (leavingCoroutine last)))
      (silent : Silent id l' g' last)
  /-- It raises the fault of the first source that is not exhausted, which has failed, when all that
  those before it and the source itself have emitted has been returned. -/
  | failed {t earlier e later fault} (since : l.store.Grows t) (until_ : t.Grows l'.store)
      (split : g'.accepted = earlier ++ e :: later) (exhausted : ∀ e' ∈ earlier, e'.Exhausted t)
      (fails : e.Fails t fault)
      (returned : List.Forall₂ Emits ((earlier ++ [e]).flatMap (·.emissions t)) g'.returned)
      (raised : l'.store.progress a.task = outcomeOf (.error (leavingCoroutine fault)))
      (silent : Silent id l' g' fault ∨
        ¬ fault.isOrdinary ∧ e.source.kind = .substream ∧ e.work = [])

/-- A stream that has ended with a fault has nothing more to say. -/
theorem Standing.silent (h : Standing id l g st) (erred : st.Errored fault)
    (free : st.pulling = false) : Silent id l g fault := by
  intro l' g' onward
  obtain ⟨st', standing, final, returned, ended⟩ := onward.of_final h ⟨erred, free⟩
  exact ⟨returned, ended, fun b call r s next begins => standing.refusing final call next begins⟩

/-- A call that goes on with a stream that was closed with a fault comes to one of these ends. -/
theorem Course.comes (h : Course id l g) (closed : g.closing = some (some last))
    (stream : l.store.streams[id]? = some st) (going : ¬ st.Stopped)
    (free : st.Unhindered l.store) (call : a ∈ g.calls) {r : Ready}
    (next : l.store.dequeue = some (r, s)) (goes : a.GoesOn id st l r)
    (after : l' = EventLoop.dispatch r { l with store := s }) :
    a.Comes id last l g l' (g.turn id a l.store l'.store) := by
  subst after
  obtain ⟨st₁, done, standing, order, pace⟩ := h.pace
  obtain rfl : st₁ = st := Option.some.inj (standing.stream.symm.trans stream)
  have linked : st₁.Linked g.closing := by
    refine order.place.linked (fun ended => ?_) going
    obtain ⟨plainly, -⟩ := order.place.of_ended ended
    cases closed.symm.trans plainly
  have closeFault : st₁.closeFault = some last := by
    rw [linked.fault, closed]
    rfl
  have live : a.Live l.store := by
    rcases goes with ⟨-, begins⟩ | wakes
    · exact begins.toLive
    · exact wakes.toLive
  obtain ⟨out, st', reaches⟩ := standing.reaches call next goes
  obtain ⟨st₂, done', standing', order', pace'⟩ := (h.next (.turn call next goes.resumes)).pace
  obtain rfl : st₂ = st' := Option.some.inj (standing'.stream.symm.trans reaches.turn.stream)
  have closed' := (g.turn_sources id a l.store
    (EventLoop.dispatch r { l with store := s }).store).1.trans closed
  have ledger : g.turn id a l.store (EventLoop.dispatch r { l with store := s }).store = _ :=
    Ledger.turn_of_concludes (l := l) live.pending reaches.turn.stream reaches.turn.concludes g
  obtain ⟨s₁, s₂, -, went, tended⟩ := reaches.goes
  have concludes := reaches.turn.concludes
  cases went with
  | @waits _ _ _ _ rounds before advances after =>
    rcases advances.atRest with ⟨idle, opened, -⟩ | ⟨draining, w', inflight, pending⟩
    · have linked' := order'.place.linked (fun ended => nomatch idle.symm.trans ended) fun stopped => by
        rcases stopped with other | ⟨other, -⟩ <;> cases idle.symm.trans other
      cases opened.symm.trans (linked'.closed.trans (congrArg Option.isSome closed'))
    · obtain ⟨earlier, e, m, -, -, split, exhausted, delivers, -⟩ := pace'.of_inflight draining inflight
      have waiting := concludes.pending
      refine .waits split exhausted delivers ?_ waiting
      -- The call's own task is pending anyway, and no other one is touched any more.
      by_cases own : w' = a.task
      · rw [own]
        exact waiting
      · exact tended.spares.still_pending (after.spares.still_pending pending trivial) own
  | @served _ _ r' _ _ _ before advances ends after =>
    cases ends with
    | chunk =>
      have present := advances.ne_nothing
      refine .chunk present concludes.1 ?_
      rw [ledger, Outcome.note, Ledger.deliver_of_ne _ _ present]
    | past =>
      obtain ⟨plainly, -⟩ := order'.place.of_ended advances.ended
      cases closed'.symm.trans plainly
    | fault =>
      obtain ⟨let_go, begun, t, fault, since, still, raised, verdict⟩ := standing.verdict call next
        goes.resumes pace closeFault going free reaches
      have same : g.turn id a l.store (EventLoop.dispatch r { l with store := s }).store = g := by
        rw [ledger, begun, assign_nil]
        rfl
      rw [raised] at concludes
      rw [same] at order' standing' ⊢
      cases verdict with
      | told exhausted count erred =>
        obtain ⟨exhausted', yields⟩ := exhausted_grows exhausted still
        refine .told exhausted' ?_ concludes.1 (standing'.silent erred let_go)
        have emits := order'.emits_take (.refl _)
        have all := Nat.le_of_eq (yields.trans count.symm)
        rwa [List.take_of_length_le all] at emits
      | @failed earlier e later _ split exhausted fails count erred =>
        refine .failed since still split exhausted fails ?_ concludes.1 ?_
        · have emits := order.emits_take since
          have length : ((earlier ++ [e]).flatMap (·.emissions t)).length = g.returned.length := by
            rw [count, ← Accepted.yielded_singleton, ← Accepted.yielded_append]
            rfl
          rwa [split, List.append_cons, List.flatMap_append, List.take_left' length] at emits
        · exact erred.imp_left fun errored => standing'.silent errored let_go

end

end StreamTemplate
