import StreamTemplate.Proofs.Stream.Order
import StreamTemplate.Proofs.Stream.Pace
import StreamTemplate.Proofs.Stream.Request

/-!
# Backpressure

A stream makes no source work ahead of its consumers. Whatever happens to it keeps its pace, and so
at any time one request at most is outstanding, nothing was begun for a source unless all before it
are exhausted and everything that they yielded has been returned, and an item is asked for only when
all items before it have been returned.
-/

namespace StreamTemplate

open Pull (Call Turn Stretch Outcome Kept)
open ChunkStream (Pace brought Begun Spread)
open Accepted (yielded assign assign_nil)

/-- The number of chunks that a call delivers. -/
def Pull.Outcome.brought : Outcome → Nat
  | .ended (.ok .none) => 0
  | .ended (.ok _) => 1
  | _ => 0

section

variable {id c : Nat} {size : Option Int} {l l' : EventLoop} {g g' : Ledger} {a : Call}
  {accepted : List Accepted} {st st' : ChunkStream} {s s' : Store} {n : Nat} {out : Outcome}

/-- A chunk that an advance brings is never nothing. -/
theorem ChunkStream.Settles.ne_nothing {source : Source} {p : Progress} {v : Value}
    (h : Settles id source st s p (.ok (some v)) st' s') : v ≠ .none := by
  cases h <;> exact Heap.normalize_ne_none _ _

theorem ChunkStream.Serves.ne_nothing {v : Value}
    (h : Serves id size st s (.ok (.chunk v)) st' s') : v ≠ .none := by
  generalize hr : (.ok (.chunk v) : Except Fault Advance) = r at h
  cases h with
  | literal =>
    cases hr
    exact Heap.normalize_ne_none _ _
  | @settled _ _ _ _ r _ _ _ _ _ _ settles =>
    cases r with
    | error => cases hr
    | ok =>
      cases hr
      exact settles.ne_nothing
  | empty | ended | closeFault | awaiting | requesting | unusable | escaping => cases hr

theorem ChunkStream.Advances.ne_nothing {v : Value}
    (h : Advances id size st s (.ok (.chunk v)) st' s') : v ≠ .none := by
  generalize hr : (.ok (.chunk v) : Except Fault Advance) = r at h
  cases h with
  | idle _ serves | passed _ _ _ _ _ serves =>
    subst hr
    exact serves.ne_nothing
  | @settled _ _ r _ _ _ _ _ _ settles =>
    cases r with
    | error => cases hr
    | ok =>
      cases hr
      exact settles.ne_nothing
  | errored | past | adrift | requesting | pending | orphaned => cases hr

/-! ### Turns -/

/-- A stretch of a pull keeps the pace. -/
theorem Pull.Stretch.pace (h : Stretch id size c st s out st' s') (pace : Pace accepted st s n)
    (calm : st.Calm) :
    Pace (assign accepted st'.pending (s.begun s')) st' s' (n + out.brought) := by
  have idle (kept : Kept c s s') {st' : ChunkStream} (pace : Pace accepted st' s n) :
      Pace (assign accepted st'.pending (s.begun s')) st' s' (n + 0) := by
    rw [kept.begun, assign_nil]
    exact pace.grows kept.spares.grows
  have went {s₁ s₂ : Store} {r : Except Fault ChunkStream.Advance} {st₂ : ChunkStream}
      (before : Kept c s s₁) (advances : ChunkStream.Advances id size
        { st with waiter := none, pulling := true } s₁ r st₂ s₂) (after : Kept c s₂ s') :
      Pace (assign accepted st₂.pending (s.begun s')) st₂ s'
        (n + brought (r.map ChunkStream.Advance.chunk?)) := by
    have begun : s.begun s' = s₁.begun s₂ :=
      begun_between before.spares.grows before.begun (advances.apart rfl).spares.grows
        after.spares.grows after.begun
    rw [begun]
    exact (advances.pace (pace.grows before.spares.grows).pulled calm).grows after.spares.grows
  cases h with
  | refused kept => exact idle kept pace
  | interrupted kept | stuck _ kept => exact idle kept pace.pulled
  | @served s₁ r r' st₂ s₂ _ before advances ends after =>
    have paced : Pace _ { st₂ with pulling := false, demand := none } s' _ :=
      (went before advances after).pulled
    cases ends with
    | fault => exact paced
    | past => exact paced
    | @chunk v =>
      have one : Outcome.brought (.ended (.ok v)) = 1 := by
        unfold Outcome.brought
        split
        · next same =>
          cases same
          exact absurd rfl advances.ne_nothing
        · rfl
        · next other => exact absurd rfl (other v)
      rw [one]
      exact paced
  | waits before advances after => exact (went before advances after).pulled

/-- A turn of a call keeps the pace. -/
theorem Pull.Turn.pace (h : Turn id a st l out st' l') (pace : Pace accepted st l.store n)
    (calm : st.Calm) :
    Pace (assign accepted st'.pending (l.store.begun l'.store)) st' l'.store (n + out.brought) := by
  obtain ⟨s, s', before, stretch, after, begun⟩ := h.stretches
  rw [begun]
  exact (stretch.pace (pace.grows before.spares.grows) calm).grows after.spares.grows

/-- What a call delivers is taken down. -/
theorem Pull.Outcome.length_note (heap : Heap) (g : Ledger) (out : Outcome) :
    (out.note heap g).accepted = g.accepted ∧
      (out.note heap g).returned.length = g.returned.length + out.brought := by
  unfold Outcome.note Outcome.brought Ledger.deliver
  split
  · split <;> simp_all
  · split <;> simp_all

/-! ### Courses -/

/-- Where a stream goes on, it is closed as the ledger has it. -/
theorem ChunkStream.Place.linked {closing : Option (Option Fault)} {done : List Slot}
    (place : ChunkStream.Place closing accepted st done) (ended : st.phase ≠ .ended)
    (going : ¬ st.Stopped) : st.Linked closing := by
  cases place with
  | idle _ _ linked | between _ _ _ _ _ linked | awaiting _ _ _ _ linked => exact linked
  | ended phase => exact absurd phase ended
  | past stopped => exact absurd stopped going

/-- Nothing was begun for sources that are just accepted. -/
theorem Ledger.accept_fresh (g : Ledger) (members : List Value) :
    ∃ new, (g.accept members).accepted = g.accepted ++ new ∧ ∀ e ∈ new, e.work = [] := by
  unfold accept
  split
  · next sources =>
    refine ⟨_, rfl, fun e mem => ?_⟩
    obtain ⟨source, -, rfl⟩ := List.mem_map.mp mem
    rfl
  · exact ⟨[], (List.append_nil _).symm, nofun⟩

/-- What is pushed to a stream that goes on is taken into its queue as it is taken down, or neither. -/
theorem ChunkStream.Pushes.feeds {members : List Value} (h : Pushes members st s st' s')
    (linked : st.Linked g.closing) :
    ∃ queue, st' = { st with queue } ∧ ∀ front, g.accepted = front ++ st.coming →
      (g.accept members).accepted = front ++ st'.coming := by
  cases h with
  | dropped closed =>
    rw [Ledger.accept_of_closed (linked.closed ▸ closed)]
    exact ⟨st.queue, rfl, fun _ split => split⟩
  | refused _ flat =>
    rw [Ledger.accept_of_refused flat]
    exact ⟨st.queue, rfl, fun _ split => split⟩
  | nothing _ flat =>
    rw [Ledger.accept_of_nothing flat]
    exact ⟨st.queue, rfl, fun _ split => split⟩
  | @taken sources opened flat =>
    have open' : g.closing = none := ChunkStream.Place.closing_of_opened linked opened
    rw [Ledger.accept_of_flatten open' flat]
    refine ⟨_, rfl, fun front split => ?_⟩
    simp [ChunkStream.coming, split]

namespace ChunkStream.Pace

theorem push {done : List Slot} {members : List Value} (h : Pace g.accepted st s n)
    (place : ChunkStream.Place g.closing g.accepted st done)
    (pushes : ChunkStream.Pushes members st s st' s') : Pace (g.accept members).accepted st' s' n := by
  have after := h.grows pushes.grows
  cases after with
  | idle phase iterator split exhausted count =>
    have linked : st.Linked g.closing := place.linked (by rw [phase]; nofun) fun stopped => by
      rcases stopped with other | ⟨other, -⟩ <;> cases phase.symm.trans other
    obtain ⟨queue, rfl, feeds⟩ := pushes.feeds linked
    exact .idle phase iterator (feeds _ split) exhausted count
  | @draining taken e m phase active iterator split exhausted delivers count =>
    have linked : st.Linked g.closing := place.linked (by rw [phase]; nofun) fun stopped => by
      rcases stopped with other | ⟨-, inflight, none⟩
      · cases phase.symm.trans other
      · rw [inflight] at delivers
        cases delivers with
        | resting kind => exact iterator kind none
    obtain ⟨queue, rfl, feeds⟩ := pushes.feeds linked
    rw [List.append_cons] at split
    have split' := feeds _ split
    rw [← List.append_cons] at split'
    exact .draining phase active iterator split' exhausted delivers count
  | past past inflight spread =>
    obtain ⟨new, accepted, fresh⟩ := g.accept_fresh members
    rw [accepted]
    cases pushes with
    | dropped | refused | nothing | taken => exact .past past inflight (spread.append fresh)

theorem close {fault : Option Fault} (h : Pace accepted st s n)
    (closes : ChunkStream.Closes fault st s st' s') : Pace accepted st' s' n := by
  have after := h.grows closes.grows
  cases closes with
  | again => exact after
  | first =>
    cases after with
    | idle phase iterator split exhausted count =>
      exact .idle phase iterator split exhausted count
    | draining phase active iterator split exhausted delivers count =>
      exact .draining phase active iterator split exhausted delivers count
    | past past inflight spread => exact .past past inflight spread

theorem abort {fault : Fault} {r : Except Fault Unit} (h : Pace accepted st s n)
    (aborts : ChunkStream.Aborts id fault st s r st' s') : Pace accepted st' s' n := by
  cases aborts with
  | late => exact h
  | through _ disposed =>
    have fails : ChunkStream.Fails id fault st s fault _ _ := .through disposed
    exact h.fails fails
  | cutShort _ disposed =>
    have fails : ChunkStream.Fails id fault st s _ _ _ := .cutShort disposed
    exact h.fails fails

/-- A turn of a call counts what it delivers. -/
theorem turn {l₀ : EventLoop} (h : Pace g.accepted st l₀.store g.returned.length) (calm : st.Calm)
    (pending : l₀.store.isPending a.task) (turn : Turn id a st l₀ out st' l') :
    Pace (g.turn id a l₀.store l'.store).accepted st' l'.store
      (g.turn id a l₀.store l'.store).returned.length := by
  rw [Ledger.turn_of_concludes pending turn.stream turn.concludes g]
  obtain ⟨accepted, length⟩ := Outcome.length_note l'.store.heap
    { g with accepted := assign g.accepted st'.pending (l₀.store.begun l'.store) } out
  rw [accepted, length]
  exact turn.pace h calm

/-- Whatever a step is to the output, the pace is kept. -/
theorem moves {done : List Slot} (h : Pace g.accepted st l.store g.returned.length)
    (place : ChunkStream.Place g.closing g.accepted st done) (standing : Standing id l g st)
    (grows : l.store.Grows l'.store) (moves : Standing.Moves id l g st l' g' st') :
    Pace g'.accepted st' l'.store g'.returned.length := by
  have stored {st : ChunkStream} {s : Store} {n : Nat} {accepted : List Accepted}
      (h : Pace accepted st s n) : Pace accepted st (s.setStream id st) n :=
    h.grows (.of_same rfl rfl rfl)
  cases moves with
  | beside => exact h.grows grows
  | @push members _ _ pushes =>
    obtain ⟨new, ledger⟩ := g.accept_eq members
    have pushed := stored (h.push place pushes)
    rw [ledger] at pushed ⊢
    exact pushed
  | close closes => exact stored (h.close closes)
  | @abort _ r _ _ aborts =>
    obtain ⟨deserted, ledger⟩ := g.abort_eq st.waiter r
    rw [ledger]
    exact stored (h.abort aborts)
  | @turn a r s _ _ _ next resumes turns =>
    have taken := (Standing.spares_taken next resumes).grows
    obtain ⟨ready, rfl, -⟩ := Store.dequeue_eq next
    have h₁ : Pace g.accepted st ({ l with store := { l.store with ready } } : EventLoop).store
      g.returned.length := h.grows taken
    cases turns with
    | past past =>
      have ledger : g.turn id a l.store { l.store with ready } = g :=
        Ledger.turn_of_over past rfl g
      rw [ledger]
      exact h₁
    | refused _ pending _ turn => exact h₁.turn standing.calm pending turn
    | taken pending turn =>
      have pulled : Pace g.accepted { st with waiter := none }
        ({ l with store := { l.store with ready } } : EventLoop).store g.returned.length := h₁.pulled
      exact pulled.turn standing.calm pending turn

end ChunkStream.Pace

end

/-! ### What was begun, and what may be -/

section

variable {s : Store} {st : ChunkStream} {n w : Nat} {e : Accepted}
  {accepted earlier later taken rest : List Accepted}

theorem work_fresh (fresh : ∀ e ∈ accepted, e.work = []) : accepted.flatMap (·.work) = [] :=
  List.flatMap_eq_nil_iff.mpr fresh

theorem countP_exhausted (exhausted : ∀ e ∈ taken, e.Exhausted s) :
    (taken.flatMap (·.work)).countP s.isPending = 0 := by
  refine List.countP_eq_zero.mpr fun w mem => ?_
  obtain ⟨e, he, mem⟩ := List.mem_flatMap.mp mem
  exact (exhausted e he).not_isPending w mem

namespace ChunkStream.Spread

/-- Of all that was begun one request at most is pending. -/
theorem countP_le (h : Spread accepted s n) :
    (accepted.flatMap (·.work)).countP s.isPending ≤ 1 := by
  obtain ⟨rfl, exhausted, begun, -⟩ := h
  rw [List.flatMap_append, List.countP_append, countP_exhausted exhausted, Nat.zero_add]
  cases begun with
  | fresh fresh => simp [work_fresh fresh]
  | first delivers fresh =>
    rw [List.flatMap_cons, work_fresh fresh, List.append_nil]
    exact delivers.countP_le

/-- Something was begun for a source only when those before it were exhausted, and all but the last
of it has brought a chunk that has come out. -/
theorem begun_at (h : Spread accepted s n) (split : accepted = earlier ++ e :: later)
    (work : e.work ≠ []) :
    (∀ e' ∈ earlier, e'.Exhausted s) ∧
      ∃ m, yielded s earlier + m ≤ n ∧ m ≤ (e.emissions s).length ∧ e.work.length ≤ m + 1 := by
  obtain ⟨split', exhausted, begun, count⟩ := h
  -- It is the first of those that are not exhausted, or it is exhausted.
  have first {taken rest : List Accepted} {m : Nat} (exhausted : ∀ e ∈ taken, e.Exhausted s)
      (begun : Begun s rest m) (count : n = yielded s taken + m) (same : taken = earlier)
      (rest : rest = e :: later) : (∀ e' ∈ earlier, e'.Exhausted s) ∧
        ∃ m, yielded s earlier + m ≤ n ∧ m ≤ (e.emissions s).length ∧ e.work.length ≤ m + 1 := by
    subst same rest
    cases begun with
    | fresh fresh => exact absurd (fresh e (List.mem_cons_self ..)) work
    | first delivers =>
      exact ⟨exhausted, _, Nat.le_of_eq count.symm, delivers.le_emissions, delivers.length_work⟩
  rcases List.append_eq_append_iff.mp (split'.symm.trans split) with
    ⟨_ | ⟨e', front⟩, before, rfl⟩ | ⟨_ | ⟨e', behind⟩, rfl, after⟩
  · exact first exhausted begun count (by rw [before, List.append_nil]) rfl
  · have mem : e ∈ front ++ e :: later := List.mem_append_right _ (List.mem_cons_self ..)
    cases begun with
    | fresh fresh => exact absurd (fresh e (List.mem_cons_of_mem _ mem)) work
    | first _ fresh => exact absurd (fresh e mem) work
  · exact first exhausted begun count (List.append_nil _) after.symm
  · obtain ⟨rfl, -⟩ := List.cons.inj after
    have own := exhausted e (List.mem_append_right _ (List.mem_cons_self ..))
    refine ⟨fun e' mem => exhausted e' (List.mem_append_left _ mem), (e.emissions s).length, ?_,
      Nat.le_refl _, own.length_work⟩
    rw [count, List.append_cons, Accepted.yielded_append, Accepted.yielded_append,
      Accepted.yielded_singleton]
    omega

end ChunkStream.Spread

/-- What is in flight is all that is pending. -/
theorem ChunkStream.Pace.inflight_eq (h : Pace accepted st s n) (calm : st.Calm)
    (mem : w ∈ accepted.flatMap (·.work)) (pending : s.isPending w) {w' : Nat}
    (inflight : st.inflight = some w') : w' = w := by
  cases h with
  | idle phase => cases inflight.symm.trans (calm phase)
  | past _ none => cases inflight.symm.trans none
  | @draining taken e m _ _ _ split exhausted delivers =>
    obtain ⟨e', he, own⟩ := List.mem_flatMap.mp mem
    rw [split, List.mem_append, List.mem_cons] at he
    rcases he with before | rfl | behind
    · exact absurd pending ((exhausted e' before).not_isPending w own)
    · exact Option.some.inj (inflight.symm.trans (delivers.pending own pending))
    · rw [fresh_coming st e' behind] at own
      cases own

/-- A request to the source `e`, behind the sources `earlier`, that may be made when just these
chunks have been delivered. -/
inductive Accepted.Due (s : Store) (earlier : List Accepted) (e : Accepted) :
    Request → List Value → Prop
  | first {request} (fresh : e.work = []) (own : request ∈ e.source.requests s.heap) :
      Due s earlier e request (earlier.flatMap (·.emissions s))
  | item {it} (kind : e.source.kind = .substream) :
      Due s earlier e (.item it) ((earlier ++ [e]).flatMap (·.emissions s))

namespace ChunkStream

/-- What the next source of a stream gets is due when all before it are exhausted. -/
theorem due_next (split : accepted = taken ++ st.coming) (exhausted : ∀ e ∈ taken, e.Exhausted s)
    {request : Request} (mem : request ∈ st.nextRequests s.heap) :
    (∀ w ∈ accepted.flatMap (·.work), ¬ s.isPending w) ∧
      ∃ earlier e later delivered, accepted = earlier ++ e :: later ∧
        (∀ e' ∈ earlier, e'.Exhausted s) ∧ Accepted.Due s earlier e request delivered ∧
        delivered.length = yielded s taken ∧ delivered <+: accepted.flatMap (·.emissions s) := by
  have idle : (accepted.flatMap (·.work)).countP s.isPending = 0 := by
    rw [split, List.flatMap_append, List.countP_append, countP_exhausted exhausted,
      work_fresh (fresh_coming st)]
    rfl
  refine ⟨List.countP_eq_zero.mp idle, ?_⟩
  rcases queue : st.queue.toList with _ | ⟨source, rest⟩
  · rw [nextRequests, queue] at mem
    cases mem
  · rw [nextRequests, queue] at mem
    rw [coming, queue] at split
    refine ⟨taken, { source }, _, _, split, exhausted, .first rfl mem, rfl, ?_⟩
    rw [split, List.flatMap_append]
    exact List.prefix_append ..

/-- What an advance may ask for is due, and nothing is pending then. -/
theorem Pace.due (h : Pace accepted st s n) {new : List Request} (wants : st.Wants s new)
    {request : Request} (mem : request ∈ new) :
    (∀ w ∈ accepted.flatMap (·.work), ¬ s.isPending w) ∧
      ∃ earlier e later delivered, accepted = earlier ++ e :: later ∧
        (∀ e' ∈ earlier, e'.Exhausted s) ∧ Accepted.Due s earlier e request delivered ∧
        delivered.length = n ∧ delivered <+: accepted.flatMap (·.emissions s) := by
  cases wants with
  | nothing => cases mem
  | next phase =>
    obtain ⟨taken, -, split, exhausted, rfl⟩ := h.of_idle phase
    exact due_next split exhausted mem
  | @passed w source v phase inflight active kind finished last =>
    obtain ⟨taken, e, m, some, -, split, exhausted, delivers, rfl⟩ := h.of_inflight phase inflight
    cases active.symm.trans some
    obtain ⟨own, yields⟩ := delivers.exhausted kind finished last
    rw [List.append_cons] at split
    have due := due_next split (exhausted_snoc exhausted own) mem
    rwa [Accepted.yielded_append, Accepted.yielded_singleton, yields] at due
  | @item it phase inflight iterator =>
    obtain ⟨taken, e, -, kind, split, exhausted, items, count⟩ :=
      h.of_between phase inflight (iterator ▸ Option.some_ne_none it)
    obtain rfl := List.mem_singleton.mp mem
    have delivers : e.Delivers s e.work.length none := .resting kind items
    constructor
    · intro w mem pending
      obtain ⟨e', he, own⟩ := List.mem_flatMap.mp mem
      rw [split, List.mem_append, List.mem_cons] at he
      rcases he with before | rfl | behind
      · exact (exhausted e' before).not_isPending w own pending
      · cases delivers.pending own pending
      · rw [fresh_coming st e' behind] at own
        cases own
    · have length : ((taken ++ [e]).flatMap (·.emissions s)).length = n := by
        rw [count, ← Accepted.length_items items, ← Accepted.emissions_substream kind,
          ← Accepted.yielded_singleton, ← Accepted.yielded_append]
        rfl
      refine ⟨taken, e, _, _, split, exhausted, .item kind, length, ?_⟩
      rw [List.append_cons] at split
      exact ⟨_, by rw [split]; exact List.flatMap_append.symm⟩

end ChunkStream

end

/-- Whatever course a stream takes, it keeps its pace. -/
theorem Course.pace {id : Nat} {l : EventLoop} {g : Ledger} (h : Course id l g) :
    ∃ st done, Standing id l g st ∧ InOrder g st l.store done ∧
      Pace g.accepted st l.store g.returned.length := by
  induction h with
  | start new waiting =>
    refine ⟨_, [], .start new waiting, ?_, .idle rfl rfl (List.nil_append _).symm nofun rfl⟩
    exact ⟨.idle rfl rfl ⟨rfl, rfl⟩ (List.nil_append _).symm rfl, nofun, .nil, nofun⟩
  | next before happens ih =>
    obtain ⟨st, done, standing, order, pace⟩ := ih
    obtain ⟨st', standing', grows, moves⟩ := standing.happens happens
    obtain ⟨done', order'⟩ := order.moves standing grows moves
    exact ⟨st', done', standing', order', pace.moves order.place standing grows moves⟩

/-- The chunks that have been returned are the first of what the sources emit, also later on. -/
theorem InOrder.emits_take {g : Ledger} {st : ChunkStream} {s s' : Store} {done : List Slot}
    (h : InOrder g st s done) (grows : s.Grows s') :
    List.Forall₂ Emits ((g.accepted.flatMap (·.emissions s')).take g.returned.length) g.returned := by
  obtain ⟨rest, slots⟩ := h.place.rest
  have emissions : g.accepted.flatMap (·.emissions s') =
      done.flatMap (·.yield s) ++ rest.flatMap (·.yield s') := by
    rw [← (yields_grows h.past grows).2, ← List.flatMap_append, ← slots]
    exact List.flatMap_assoc.symm
  rw [emissions, ← h.returned.length_eq, List.take_left]
  exact h.returned

/-- A first part of a list that is related to another one is related to a first part of that. -/
theorem forall₂_slices {α β : Type} {R : α → β → Prop} {xs ys zs : List α} {us : List β} {m : Nat}
    (h : List.Forall₂ R ((xs ++ (ys ++ zs)).take us.length) us) (le : xs.length + m ≤ us.length)
    (own : m ≤ ys.length) :
    ∃ before mid behind, us = before ++ mid ++ behind ∧ List.Forall₂ R xs before ∧
      List.Forall₂ R (ys.take mid.length) mid ∧ mid.length = m := by
  have length : ((us.drop xs.length).take m).length = m := by
    rw [List.length_take, List.length_drop]
    omega
  refine ⟨us.take xs.length, (us.drop xs.length).take m, (us.drop xs.length).drop m, ?_, ?_, ?_,
    length⟩
  · rw [List.append_assoc, List.take_append_drop, List.take_append_drop]
  · have first := List.forall₂_take xs.length h
    rwa [List.take_take, Nat.min_eq_left (by omega), List.take_left] at first
  · have second := List.forall₂_take m (List.forall₂_drop xs.length h)
    rw [List.drop_take, List.take_take, Nat.min_eq_left (by omega), List.drop_left,
      List.take_append_of_le_length own] at second
    rwa [length]

/-- Whatever has happened to a stream, of all that was begun for its sources one request at most is
outstanding, and that is what is in flight if anything is. Something was begun for a source only when
those before it were exhausted and all that they yielded had been returned, and at most one item more
was asked for than chunks of it have been returned. Sources are set to work only in an advance, that
is in a pull: at any time the request that it may make is due. -/
theorem Course.backpressure {id : Nat} {l : EventLoop} {g : Ledger} (h : Course id l g) :
    ∃ st, l.store.streams[id]? = some st ∧
      (g.accepted.flatMap (·.work)).countP l.store.isPending ≤ 1 ∧
      (∀ w ∈ g.accepted.flatMap (·.work), l.store.isPending w →
        ∀ w', st.inflight = some w' → w' = w) ∧
      (∀ earlier e later, g.accepted = earlier ++ e :: later → e.work ≠ [] →
        (∀ e' ∈ earlier, e'.Exhausted l.store) ∧
        ∃ before own behind, g.returned = before ++ own ++ behind ∧
          List.Forall₂ Emits (earlier.flatMap (·.emissions l.store)) before ∧
          List.Forall₂ Emits ((e.emissions l.store).take own.length) own ∧
          e.work.length ≤ own.length + 1) ∧
      (∀ st s, (∀ members, StreamM.requests
          (ChunkStream.push (Store.surroundings id).noting members) st s = []) ∧
        (∀ fault, StreamM.requests
          (ChunkStream.close (Store.surroundings id).noting fault) st s = []) ∧
        (∀ fault, StreamM.requests
          (ChunkStream.abort (Store.surroundings id).noting fault) st s = []) ∧
        ∀ w, StreamM.requests (ChunkStream.noticed (Store.surroundings id).noting w) st s = []) ∧
      ∀ s size, l.store.Grows s →
        ∀ request ∈ StreamM.requests (ChunkStream.advance (Store.surroundings id).noting size)
          { st with waiter := none, pulling := true } s,
        (∀ w ∈ g.accepted.flatMap (·.work), ¬ s.isPending w) ∧
        ∃ earlier e later delivered, g.accepted = earlier ++ e :: later ∧
          (∀ e' ∈ earlier, e'.Exhausted s) ∧ Accepted.Due s earlier e request delivered ∧
          List.Forall₂ Emits delivered g.returned := by
  obtain ⟨st, done, standing, order, pace⟩ := h.pace
  refine ⟨st, standing.stream, pace.spread.countP_le,
    fun w mem pending w' => pace.inflight_eq standing.calm mem pending,
    fun earlier e later split work => ?_, fun st s => ?_, fun s size grows request mem => ?_⟩
  · obtain ⟨exhausted, m, le, own, length⟩ := pace.spread.begun_at split work
    have emits := order.emits_take (.refl _)
    rw [split, List.flatMap_append, List.flatMap_cons] at emits
    obtain ⟨before, mid, behind, returned, first, second, rfl⟩ := forall₂_slices emits le own
    exact ⟨exhausted, before, mid, behind, returned, first, second, length⟩
  · exact ⟨fun members => (ChunkStream.silent_push id members st s).requests_eq,
      fun fault => (ChunkStream.silent_close id fault st s).requests_eq,
      fun fault => (ChunkStream.silent_abort id fault st s).requests_eq,
      fun w => (ChunkStream.silent_noticed id w st s).requests_eq⟩
  · obtain ⟨new, wants, mirrors⟩ := ChunkStream.mirrors_advance id size
      { st with waiter := none, pulling := true } s standing.calm
    rw [mirrors.requests_eq] at mem
    obtain ⟨idle, earlier, e, later, delivered, split, exhausted, due, length, part⟩ :=
      (pace.grows grows).pulled.due wants mem
    refine ⟨idle, earlier, e, later, delivered, split, exhausted, due, ?_⟩
    have emits := order.emits_take grows
    rwa [← length, ← List.prefix_iff_eq_take.mp part] at emits

/-- A pull of an asynchronous iterable has asked it for one item, which is outstanding. -/
theorem Course.exists_outstanding : ∃ l g e, Course 0 l g ∧ g.accepted = [e] ∧ e.work = [1] ∧
    l.store.isPending 1 ∧ (g.accepted.flatMap (·.work)).countP l.store.isPending ≤ 1 ∧
    ∃ own : List (Value × Heap), own <+: g.returned ∧ e.work.length ≤ own.length + 1 := by
  have opened : Course 0 _ _ := .start (l := {}) rfl nofun
  have pushed := opened.next (.push (.cell .asyncItems 0) nofun)
  have begun := pushed.next (.call "reader" none)
  have waits := begun.next (.turn (r := .step 0 none) (List.mem_cons_self ..) rfl rfl)
  obtain ⟨st, -, once, -, paced, -, -⟩ := waits.backpressure
  obtain ⟨-, before, own, behind, returned, first, -, length⟩ := paced [] _ [] rfl nofun
  obtain rfl : before = [] := List.forall₂_nil_left_iff.mp first
  exact ⟨_, _, _, waits, rfl, rfl, rfl, once, own, ⟨behind, returned.symm⟩, length⟩

end StreamTemplate
