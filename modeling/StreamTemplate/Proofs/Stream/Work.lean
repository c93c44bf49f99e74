import StreamTemplate.Proofs.Loop.Faithful
import StreamTemplate.Proofs.Stream.Backpressure
import StreamTemplate.Proofs.Stream.LastWord

/-!
# The work of sources

What a stream begins for a source is a task. If the source is a coroutine, the task runs it; if the source
is gone through, the task runs a coroutine that asks for the next item. That is so whenever work is taken
down for a source, and stays so since tasks keep their coroutines and coroutines their bodies.
-/

namespace StreamTemplate

open Pull (Call Turn Stretch Outcome Kept)
open ChunkStream (Place Settles Serves Advances Fails)
open Accepted (assign assign_nil)

section

variable {id c w : Nat} {size : Option Int} {l l' : EventLoop} {g g' : Ledger} {a : Call}
  {source : Source} {closing : Option (Option Fault)} {accepted taken rest : List Accepted}
  {e : Accepted} {st st' : ChunkStream} {s s' : Store} {done : List Slot} {out : Outcome}

namespace Store

theorem coroutineOf_newTask (c : Nat) (report : Option String) (s : Store) :
    ((newTask c report).run s).2.coroutineOf s.futures.size = some c := by
  show ((s.futures.push _)[s.futures.size]?.bind _).map _ = _
  rw [Array.getElem?_push_size]
  rfl

theorem bodyOf_newCoroutine (b : Body) (s : Store) :
    ((newCoroutine b).run s).2.bodyOf s.coroutines.size = some b := by
  show (s.coroutines.push _)[s.coroutines.size]?.map _ = _
  rw [Array.getElem?_push_size]
  rfl

theorem Grows.coroutineOf (grows : s.Grows s') (task : s.coroutineOf w = some c) :
    s'.coroutineOf w = some c := by
  obtain ⟨τ, known, -⟩ := Option.map_eq_some_iff.mp task
  exact (grows.task?_coroutine (Pull.lt_of_task? known)).trans task

end Store

namespace Source

/-- What a source is gone through with. -/
def IteratedBy (source : Source) (it : Value) : Prop :=
  ∃ heap, Store.iterator heap source.value Store.notAsyncIterator = .ok it

/-- The task `w` does what is to be done for a source. -/
structure RunBy (source : Source) (s : Store) (w : Nat) : Prop where
  awaits : source.kind = .deferred → ∀ c, source.value = .process .coroutine c →
    s.coroutineOf w = some c
  asks : source.kind = .substream → ∃ c it, s.coroutineOf w = some c ∧
    s.bodyOf c = some (.nextItem it) ∧ source.IteratedBy it

theorem RunBy.grows (h : source.RunBy s w) (grows : s.Grows s') : source.RunBy s' w where
  awaits kind c value := Store.Grows.coroutineOf grows (h.awaits kind c value)
  asks kind := by
    obtain ⟨c, it, task, body, iterated⟩ := h.asks kind
    exact ⟨c, it, Store.Grows.coroutineOf grows task, Store.Grows.bodyOf grows body, iterated⟩

/-- A coroutine that is awaited is run. -/
theorem runBy_startAwaiting (kind : source.kind = .deferred)
    (begun : (Store.startAwaiting source.value).run s = (w, s')) :
    ∀ w ∈ s.begun s', source.RunBy s' w := by
  intro w' mem
  constructor
  case asks =>
    intro other
    cases kind.symm.trans other
  case awaits =>
    intro _ c value
    have run : (Store.startAwaiting source.value).run s = (Store.newTask c none).run s := by
      rw [value]
      rfl
    have after : s' = ((Store.newTask c none).run s).2 := congrArg Prod.snd (begun.symm.trans run)
    rw [after, Store.begun_newTask, List.mem_singleton] at mem
    rw [after, mem]
    exact s.coroutineOf_newTask c none

/-- An item is asked for. -/
theorem runBy_asked {it : Value} (kind : source.kind = .substream) (iterated : source.IteratedBy it)
    (s : Store) : source.RunBy (s.asked it) s.futures.size := by
  constructor
  case awaits =>
    intro other
    cases kind.symm.trans other
  case asks =>
    refine fun _ => ⟨s.coroutines.size, it, ?_, ?_, iterated⟩
    · exact Store.coroutineOf_newTask s.coroutines.size none ((Store.newCoroutine (.nextItem it)).run s).2
    · exact s.bodyOf_newCoroutine (.nextItem it)

end Source

/-- Tasks do what is to be done for the sources, and the active source is what is gone through. -/
structure Working (accepted : List Accepted) (st : ChunkStream) (s : Store) : Prop where
  works : ∀ e ∈ accepted, ∀ w ∈ e.work, e.source.RunBy s w
  iterates : ∀ source it, st.active = some source → st.iterator = some it → source.IteratedBy it

namespace Working

theorem grows (h : Working accepted st s) (grows : s.Grows s') : Working accepted st s' :=
  ⟨fun e he w hw => (h.works e he w hw).grows grows, h.iterates⟩

/-- What tasks do does not depend on the fields of the stream. -/
theorem apart (h : Working accepted st s) (iterator : st'.iterator = none) : Working accepted st' s :=
  ⟨h.works, fun _ _ _ some => nomatch iterator.symm.trans some⟩

theorem same (h : Working accepted st s) (active : st'.active = st.active)
    (iterator : st'.iterator = st.iterator) : Working accepted st' s :=
  ⟨h.works, by rw [active, iterator]; exact h.iterates⟩

/-- Work is begun for a source. -/
theorem begun (h : Working (taken ++ e :: rest) st s) (grows : s.Grows s') {work : List Nat}
    (new : ∀ w ∈ work, e.source.RunBy s' w)
    (iterates : ∀ source it, st'.active = some source → st'.iterator = some it →
      source.IteratedBy it) :
    Working (taken ++ { e with work := e.work ++ work } :: rest) st' s' where
  works e' he w hw := by
    have old (e' : Accepted) (he : e' ∈ taken ++ e :: rest) (hw : w ∈ e'.work) : e'.source.RunBy s' w :=
      (h.works e' he w hw).grows grows
    rcases List.mem_append.mp he with before | here
    · exact old e' (List.mem_append_left _ before) hw
    · rcases List.mem_cons.mp here with rfl | behind
      · rcases List.mem_append.mp hw with before | fresh
        · exact old e (List.mem_append_right _ (List.mem_cons_self ..)) before
        · exact new w fresh
      · exact old e' (List.mem_append_right _ (List.mem_cons_of_mem _ behind)) hw
  iterates := iterates

theorem fails {fault error : Fault} (h : Working accepted st s) (fails : Fails id fault st s error st' s') :
    Working accepted st' s' := by
  refine (h.grows fails.still.grows).apart ?_
  cases fails <;> rfl

theorem settles {p : Progress} {r : Except Fault (Option Value)} (h : Working accepted st s)
    (settles : Settles id source st s p r st' s') : Working accepted st' s' := by
  cases settles with
  | cancelled fails | failed fails | badItem _ _ fails => exact h.fails fails
  | badResult _ _ fails =>
    have released : Working accepted st.released s := h.apart rfl
    exact released.fails fails
  | result | exhausted => exact h.apart rfl
  | item => exact h

theorem coming {sources : List Source} (h : Working accepted st s) (queue : st.queue.toList = source :: sources)
    (split : accepted = taken ++ st.coming) :
    Working (taken ++ { source := source } :: sources.map fun source => { source := source }) st s := by
  rw [ChunkStream.coming, queue, List.map_cons] at split
  rwa [← split]

/-- What a stream begins that goes through its queue is the work of the source that it has taken out. -/
theorem serves {r : Except Fault ChunkStream.Advance} (h : Working accepted st s)
    (serves : Serves id size st s r st' s') (iterator : st.iterator = none)
    (split : accepted = taken ++ st.coming) :
    Working (assign accepted st'.pending (s.begun s')) st' s' := by
  have idle {s' : Store} (still : s.Still s') (h : Working accepted st' s') :
      Working (assign accepted st'.pending (s.begun s')) st' s' :=
    (ChunkStream.assign_still still accepted st'.pending).symm ▸ h
  cases serves with
  | empty => exact idle (.refl s) (h.same rfl rfl)
  | ended => exact idle (Store.still_woken ..) ((h.grows (Store.still_woken ..).grows).same rfl rfl)
  | closeFault _ _ _ fails => exact idle fails.still (h.fails fails)
  | literal => exact idle (.refl s) (h.same rfl rfl)
  | @awaiting source sources w s₁ queue kind begun pending =>
    have apart : ChunkStream.Apart id [] s s₁ := .startAwaiting begun
    have heard := ChunkStream.still_heard s₁ id w
    rw [heard.begun_after apart.spares.grows, ChunkStream.assign_coming queue split rfl]
    refine (h.coming queue split).begun (apart.spares.grows.trans heard.grows)
      (fun w hw => ?_) fun _ _ _ some => nomatch iterator.symm.trans some
    exact (Source.runBy_startAwaiting kind begun w hw).grows heard.grows
  | @settled source sources w s₁ r _ _ queue kind begun pending settles =>
    obtain rfl := ChunkStream.startAwaiting_of_settled begun pending
    have heard := (ChunkStream.still_heard s₁ id w).trans (Store.still_unheard _ id (some w))
    have activated : Working accepted (st.activated source sources).landed
        ((s₁.heard id w).unheard id (some w)) := (h.grows heard.grows).apart iterator
    exact idle (heard.trans settles.still) (activated.settles settles)
  | @requesting source sources it queue kind iterates =>
    have heard := ChunkStream.still_heard (s.asked it) id s.futures.size
    rw [ChunkStream.begun_requested, ChunkStream.assign_coming queue split rfl]
    refine (h.coming queue split).begun
      ((ChunkStream.grows_asked it s).trans heard.grows) (fun w hw => ?_) ?_
    · rw [List.mem_singleton.mp hw]
      exact (Source.runBy_asked kind ⟨_, iterates⟩ s).grows heard.grows
    · rintro _ _ ⟨⟩ ⟨⟩
      exact ⟨_, iterates⟩
  | @unusable source sources _ _ _ _ _ _ _ _ fails =>
    have activated : Working accepted (st.activated source sources) s := h.apart iterator
    exact idle fails.still (activated.fails fails)
  | escaping => exact idle (.refl s) (h.apart iterator)

/-- An advance begins the work of the active source, or goes through the queue. -/
theorem advances {r : Except Fault ChunkStream.Advance} (h : Working accepted st s)
    (advances : Advances id size st s r st' s') (place : Place closing accepted st done) :
    Working (assign accepted st'.pending (s.begun s')) st' s' := by
  have idle {s' : Store} (still : s.Still s') (h : Working accepted st' s') :
      Working (assign accepted st'.pending (s.begun s')) st' s' :=
    (ChunkStream.assign_still still accepted st'.pending).symm ▸ h
  cases advances with
  | errored | past | adrift => exact idle (.refl s) h
  | idle phase serves =>
    obtain ⟨taken, iterator, -, split, -⟩ := place.of_idle phase
    exact h.serves serves iterator split
  | @requesting it phase inflight iterator =>
    obtain ⟨taken, e, active, kind, -, split, -⟩ :=
      place.of_between phase inflight (iterator ▸ Option.some_ne_none it)
    have heard := ChunkStream.still_heard (s.asked it) id s.futures.size
    rw [ChunkStream.assign_requested it split]
    rw [split] at h
    refine h.begun ((ChunkStream.grows_asked it s).trans heard.grows) (fun w hw => ?_) h.iterates
    rw [List.mem_singleton.mp hw]
    exact (Source.runBy_asked kind (h.iterates e.source it active iterator) s).grows heard.grows
  | pending => exact idle (.refl s) (h.same rfl rfl)
  | @orphaned w =>
    have ignored := Store.still_unheard s id (some w)
    exact idle ignored ((h.grows ignored.grows).same rfl rfl)
  | @settled w source r _ _ _ _ _ _ settles =>
    have ignored := Store.still_unheard s id (some w)
    have landed : Working accepted st.landed (s.unheard id (some w)) :=
      (h.grows ignored.grows).same rfl rfl
    exact idle (ignored.trans settles.still) (landed.settles settles)
  | @passed w source _ _ r _ _ phase inflight pending active settles serves =>
    have ignored := Store.still_unheard s id (some w)
    obtain ⟨taken, e, -, -, -, split, -⟩ := place.of_inflight phase inflight
    obtain ⟨rfl, rfl, -⟩ := settles.of_none
    rw [List.append_cons] at split
    have released : Working accepted st.landed.released (s.unheard id (some w)) :=
      (h.grows ignored.grows).apart rfl
    rw [← Store.begun_congr ignored.size]
    exact released.serves serves rfl split

end Working

/-! ### Turns -/

/-- A stretch of a pull begins nothing but the work of sources. -/
theorem Pull.Stretch.working (h : Stretch id size c st s out st' s') (working : Working accepted st s)
    (place : Place closing accepted st done) :
    Working (assign accepted st'.pending (s.begun s')) st' s' := by
  have idle (kept : Kept c s s') (working : Working accepted st' s) :
      Working (assign accepted st'.pending (s.begun s')) st' s' := by
    rw [kept.begun, assign_nil]
    exact working.grows kept.spares.grows
  have went {s₁ s₂ : Store} {r : Except Fault ChunkStream.Advance} {st₂ : ChunkStream}
      (before : Kept c s s₁) (advances : Advances id size { st with waiter := none, pulling := true } s₁ r st₂ s₂)
      (after : Kept c s₂ s') : Working (assign accepted st₂.pending (s.begun s')) st₂ s' := by
    have begun : s.begun s' = s₁.begun s₂ :=
      begun_between before.spares.grows before.begun (advances.apart rfl).spares.grows
        after.spares.grows after.begun
    have pulled : Working accepted { st with waiter := none, pulling := true } s₁ :=
      (working.grows before.spares.grows).same rfl rfl
    rw [begun]
    exact (pulled.advances advances place.pulled).grows after.spares.grows
  cases h with
  | refused kept => exact idle kept working
  | interrupted kept | stuck _ kept => exact idle kept (working.same rfl rfl)
  | served before advances _ after => exact (went before advances after).same rfl rfl
  | waits before advances after => exact (went before advances after).same rfl rfl

theorem Pull.Turn.working (h : Turn id a st l out st' l') (working : Working accepted st l.store)
    (place : Place closing accepted st done) :
    Working (assign accepted st'.pending (l.store.begun l'.store)) st' l'.store := by
  obtain ⟨s, s', before, stretch, after, begun⟩ := h.stretches
  rw [begun]
  exact (stretch.working (working.grows before.spares.grows) place).grows after.spares.grows

/-! ### Courses -/

theorem Ledger.accepted_turn (g : Ledger) (id : Nat) (a : Call) (before after : Store) :
    (g.turn id a before after).accepted =
      assign g.accepted (Session.streamOf after id).pending (before.begun after) := by
  unfold turn deliver
  split
  · split <;> rfl
  · rfl

namespace Working

theorem turn {l₀ : EventLoop} (h : Working g.accepted st l₀.store)
    (place : Place g.closing g.accepted st done) (turn : Turn id a st l₀ out st' l') :
    Working (g.turn id a l₀.store l'.store).accepted st' l'.store := by
  have current : Session.streamOf l'.store id = st' := by
    unfold Session.streamOf
    rw [turn.stream]
    rfl
  rw [Ledger.accepted_turn, current]
  exact turn.working h place

/-- Whatever a step is to the output, tasks do what is to be done for the sources. -/
theorem moves (h : Working g.accepted st l.store) (place : Place g.closing g.accepted st done)
    (grows : l.store.Grows l'.store) (moves : Standing.Moves id l g st l' g' st') :
    Working g'.accepted st' l'.store := by
  cases moves with
  | beside => exact h.grows grows
  | @push members _ _ pushes =>
    obtain ⟨new, accepted, fresh⟩ := g.accept_fresh members
    have fed : Working (g.accept members).accepted st l.store := by
      refine ⟨fun e he w hw => ?_, h.iterates⟩
      rw [accepted] at he
      rcases List.mem_append.mp he with old | new
      · exact h.works e old w hw
      · rw [fresh e new] at hw
        cases hw
    refine (fed.grows grows).same ?_ ?_
    · cases pushes <;> rfl
    · cases pushes <;> rfl
  | close closes =>
    refine (h.grows grows).same ?_ ?_
    · cases closes <;> rfl
    · cases closes <;> rfl
  | @abort _ r _ _ aborts =>
    obtain ⟨deserted, ledger⟩ := g.abort_eq st.waiter r
    rw [ledger]
    cases aborts with
    | late => exact h.grows grows
    | through | cutShort => exact (h.grows grows).apart rfl
  | @turn a r s _ _ _ next resumes turns =>
    obtain ⟨ready, rfl, -⟩ := Store.dequeue_eq next
    have taken : Working g.accepted st ({ l with store := { l.store with ready } } : EventLoop).store :=
      h.grows (Standing.spares_taken next resumes).grows
    cases turns with
    | past past =>
      have ledger : g.turn id a l.store { l.store with ready } = g := Ledger.turn_of_over past rfl g
      rw [ledger]
      exact taken
    | refused _ _ _ turn => exact taken.turn place turn
    | taken _ turn =>
      have pulled : Working g.accepted { st with waiter := none }
        ({ l with store := { l.store with ready } } : EventLoop).store := taken.same rfl rfl
      exact pulled.turn place.pulled turn

end Working

/-- Whatever course a stream takes, what was begun for a source is a task that does what is to be done for
it. -/
theorem Course.working (h : Course id l g) : ∃ st done, Standing id l g st ∧
    InOrder g st l.store done ∧ Working g.accepted st l.store := by
  induction h with
  | start new waiting =>
    refine ⟨_, [], .start new waiting, ?_, nofun, nofun⟩
    exact ⟨.idle rfl rfl ⟨rfl, rfl⟩ (List.nil_append _).symm rfl, nofun, .nil, nofun⟩
  | next before happens ih =>
    obtain ⟨st, done, standing, order, working⟩ := ih
    obtain ⟨st', standing', grows, moves⟩ := standing.happens happens
    obtain ⟨done', order'⟩ := order.moves standing grows moves
    exact ⟨st', done', standing', order', working.moves order.place grows moves⟩

/-! ### Sources stay -/

/-- What happens to a stream leaves the accepted sources as they are, and adds new ones behind them. -/
theorem Happens.sources (h : Happens id l g l' g') :
    g.accepted.map (·.source) <+: g'.accepted.map (·.source) := by
  cases h with
  | push chunk =>
    obtain ⟨new, accepted, -⟩ := g.accept_fresh (l.store.heap.chunkMembers chunk)
    rw [accepted, List.map_append]
    exact List.prefix_append ..
  | turn =>
    exact ⟨[], (List.append_nil _).trans (g.turn_sources id _ l.store _).2.symm⟩
  | abort =>
    obtain ⟨deserted, ledger⟩ := g.abort_eq (Session.streamOf l.store id).waiter _
    exact ⟨[], (List.append_nil _).trans (by rw [ledger])⟩
  | close | call | notice | cancel | settle | outside => exact List.prefix_rfl

theorem Onward.sources (h : Onward id l g l' g') :
    g.accepted.map (·.source) <+: g'.accepted.map (·.source) := by
  induction h with
  | here => exact List.prefix_rfl
  | next before happens ih => exact ih.trans happens.sources

/-! ### The chunks of a source -/

/-- How much the first `n` accepted sources have emitted. -/
def Ledger.emitted (g : Ledger) (s : Store) (n : Nat) : Nat :=
  ((g.accepted.take n).flatMap (·.emissions s)).length

/-- The chunks of the accepted source number `n` that pulls have returned. -/
def Ledger.returnedOf (g : Ledger) (s : Store) (n : Nat) : List (Value × Heap) :=
  (g.returned.take (g.emitted s (n + 1))).drop (g.emitted s n)

theorem Ledger.emitted_succ {n : Nat} (known : g.accepted[n]? = some e) (s : Store) :
    (g.accepted.take (n + 1)).flatMap (·.emissions s) =
      (g.accepted.take n).flatMap (·.emissions s) ++ e.emissions s := by
  rw [List.take_add_one, known, List.flatMap_append]
  simp

theorem Ledger.emitted_mono (g : Ledger) (s : Store) (n : Nat) : g.emitted s n ≤ g.emitted s (n + 1) := by
  unfold Ledger.emitted
  rw [List.take_add_one, List.flatMap_append, List.length_append]
  exact Nat.le_add_right ..

/-- Every chunk that has been returned is one of the chunks of a source, in the order of the sources. -/
theorem Course.returned_eq (h : Course id l g) :
    (List.range g.accepted.length).flatMap (g.returnedOf l.store) = g.returned := by
  obtain ⟨st, done, -, order⟩ := h.inOrder
  have first (n : Nat) : (List.range n).flatMap (g.returnedOf l.store) =
      g.returned.take (g.emitted l.store n) := by
    induction n with
    | zero => simp [Ledger.emitted]
    | succ n ih =>
      have part : g.returned.take (g.emitted l.store n) =
          (g.returned.take (g.emitted l.store (n + 1))).take (g.emitted l.store n) := by
        rw [List.take_take, Nat.min_eq_left (g.emitted_mono l.store n)]
      rw [List.range_succ, List.flatMap_append, ih, part, List.flatMap_singleton]
      exact List.take_append_drop ..
  have emits := (order.emits_take (.refl _)).length_eq
  rw [List.length_take] at emits
  rw [first, Ledger.emitted, List.take_length]
  exact List.take_of_length_le (by omega)

/-- The chunks of a source are what it emits first. -/
theorem Course.emits_returnedOf (h : Course id l g) {n : Nat} (known : g.accepted[n]? = some e) :
    ∃ k, List.Forall₂ Emits ((e.emissions l.store).take k) (g.returnedOf l.store n) := by
  obtain ⟨st, done, -, order⟩ := h.inOrder
  have emits := order.emits_take (.refl _)
  have upTo : (g.accepted.flatMap (·.emissions l.store)).take (g.emitted l.store (n + 1)) =
      (g.accepted.take n).flatMap (·.emissions l.store) ++ e.emissions l.store := by
    have split : g.accepted.flatMap (·.emissions l.store) =
        (g.accepted.take (n + 1)).flatMap (·.emissions l.store) ++
          (g.accepted.drop (n + 1)).flatMap (·.emissions l.store) := by
      rw [← List.flatMap_append, List.take_append_drop]
    rw [split, Ledger.emitted, List.take_left, Ledger.emitted_succ known]
  have part := List.forall₂_drop (g.emitted l.store n) (List.forall₂_take (g.emitted l.store (n + 1)) emits)
  rw [List.take_take, Nat.min_comm, ← List.take_take, upTo, List.drop_take, Ledger.emitted,
    List.drop_left] at part
  exact ⟨_, part⟩

theorem exists_of_forall₂ {α β : Type} {R : α → β → Prop} {xs : List α} {ys : List β} {y : β}
    (h : List.Forall₂ R xs ys) (mem : y ∈ ys) : ∃ x ∈ xs, R x y := by
  induction h with
  | nil => cases mem
  | cons first _ ih =>
    rcases List.mem_cons.mp mem with rfl | mem
    · exact ⟨_, List.mem_cons_self .., first⟩
    · obtain ⟨x, hx, related⟩ := ih mem
      exact ⟨x, List.mem_cons_of_mem _ hx, related⟩

theorem Course.emits_of_mem (h : Course id l g) {n : Nat} (known : g.accepted[n]? = some e)
    {p : Value × Heap} (mem : p ∈ g.returnedOf l.store n) : ∃ raw ∈ e.emissions l.store, Emits raw p := by
  obtain ⟨k, emits⟩ := h.emits_returnedOf known
  obtain ⟨raw, first, emitted⟩ := exists_of_forall₂ emits mem
  exact ⟨raw, List.mem_of_mem_take first, emitted⟩

end

end StreamTemplate
