import StreamTemplate.Proofs.Loop.Overlook
import StreamTemplate.Proofs.Stream.Failing
import StreamTemplate.Proofs.Stream.Moves

/-!
# Pushing to a stream that is closed

A push after the stream was closed closes the coroutines of the chunk and does nothing else. What consumers
see from then on is the same as without it as long as none of these coroutines is run: whatever can happen
to the stream in the one case can happen in the other, step by step. It is another matter if such a
coroutine is still to be run, since the stream has it in its queue or someone else awaits it.
-/

namespace StreamTemplate

open Pull (Call)

/-! ### Closing what is pushed late -/

namespace Store

/-- A coroutine is among values, and it is not over. -/
def Unfinished (s : Store) (vs : List Value) (c : Nat) : Prop :=
  .process .coroutine c ∈ vs ∧ s.coroutineState c ≠ .closed

/-- Closing the coroutines among values, none of which is running. -/
theorem coroutines_disposal {vs : List Value} {s : Store}
    (idle : ∀ c, .process .coroutine c ∈ vs → s.coroutineState c ≠ .running) (c : Nat) :
    (.process .coroutine c ∈ vs → (disposal vs s).2.coroutines[c]? =
      (s.coroutines[c]?).map ({ · with state := .closed })) ∧
    (.process .coroutine c ∉ vs → (disposal vs s).2.coroutines[c]? = s.coroutines[c]?) := by
  fun_induction disposal vs s with
  | case1 s => exact ⟨fun mem => absurd mem List.not_mem_nil, fun _ => rfl⟩
  | case2 k vs s running => exact absurd running (idle k (.head _))
  | case3 k vs s running ih =>
    obtain ⟨member, other⟩ := ih fun i hi => coroutineState_setCoroutine_closed (idle i (.tail _ hi))
    have set := AlikeBut.getElem?_setCoroutine s k c .closed
    by_cases same : k = c
    · subst same
      rw [if_pos rfl] at set
      refine ⟨fun _ => ?_, fun absent => absurd (.head _) absent⟩
      by_cases again : .process .coroutine k ∈ vs
      · rw [member again, set, Option.map_map]
        rfl
      · rw [other again, set]
    · rw [if_neg same] at set
      have tail : .process .coroutine c ∈ Value.process .coroutine k :: vs ↔
          Value.process .coroutine c ∈ vs := by
        simp [Ne.symm same]
      rw [tail, ← set]
      exact ⟨member, other⟩
  | case4 v vs s other ih =>
    have tail : .process .coroutine c ∈ v :: vs ↔ .process .coroutine c ∈ vs := by
      refine ⟨fun mem => ?_, fun mem => .tail _ mem⟩
      rcases List.mem_cons.mp mem with rfl | mem
      · exact absurd rfl (other c)
      · exact mem
    rw [tail]
    exact ih fun k hk => idle k (.tail _ hk)

/-- Closing the coroutines among values changes no more than how far those have come that are not over. -/
theorem alikeBut_disposal {vs : List Value} {s : Store}
    (idle : ∀ c, .process .coroutine c ∈ vs → s.coroutineState c ≠ .running) :
    s.AlikeBut (s.Unfinished vs) (disposal vs s).2 := by
  have closed (c : Nat) := coroutines_disposal idle c
  constructor
  case rest =>
    obtain ⟨coroutines, eq⟩ := disposal_eq vs s
    rw [eq]
  case bodies =>
    intro c
    by_cases member : .process .coroutine c ∈ vs
    · rw [(closed c).1 member, Option.map_map]
      rfl
    · rw [(closed c).2 member]
  case same =>
    intro c finished
    by_cases member : .process .coroutine c ∈ vs
    · have state : s.coroutineState c = .closed := by
        by_contra unfinished
        exact finished ⟨member, unfinished⟩
      rw [(closed c).1 member]
      unfold coroutineState at state
      cases found : s.coroutines[c]? with
      | none => rfl
      | some k =>
        rw [found] at state
        have same : k.state = .closed := state
        exact congrArg some (by rw [← same])
    · exact (closed c).2 member
  case there =>
    intro c unfinished
    by_contra ge
    refine unfinished.2 ?_
    unfold coroutineState
    rw [Array.getElem?_eq_none (Nat.le_of_not_lt ge)]
    rfl
  case idle =>
    intro c unfinished
    refine ⟨idle c unfinished.1, ?_⟩
    unfold coroutineState
    rw [(closed c).1 unfinished.1]
    cases s.coroutines[c]? <;> nofun

end Store

/-! ### What consumers see -/

namespace Ledger

/-- Two ledgers show consumers the same: they differ at most in what is taken down as accepted. -/
def Shows (g g' : Ledger) : Prop :=
  ∃ accepted, g' = { g with accepted }

theorem Shows.accept (g : Ledger) (members : List Value) : g.Shows (g.accept members) := by
  obtain ⟨new, eq⟩ := g.accept_eq members
  exact ⟨_, eq⟩

theorem Shows.symm {g g' : Ledger} (h : g.Shows g') : g'.Shows g := by
  obtain ⟨accepted, rfl⟩ := h
  exact ⟨g.accepted, rfl⟩

theorem Shows.trans {g g' g'' : Ledger} (h : g.Shows g') (h' : g'.Shows g'') : g.Shows g'' := by
  obtain ⟨accepted, rfl⟩ := h
  obtain ⟨accepted', rfl⟩ := h'
  exact ⟨accepted', rfl⟩

variable {D : Nat → Prop} {before before' after after' : Store}

/-- A turn of a call shows the same from ledgers and between stores that do. -/
theorem Shows.turn {g g' : Ledger} (h : g.Shows g') (first : before.AlikeBut D before')
    (second : after.AlikeBut D after') (id : Nat) (a : Call) :
    (g.turn id a before after).Shows (g'.turn id a before' after') := by
  obtain ⟨accepted, rfl⟩ := h
  have same : Ledger.turn { g with accepted } id a before' after' =
      Ledger.turn { g with accepted } id a before after :=
    (first.congr (f := fun s => Ledger.turn _ id a s after') fun _ _ => rfl).trans
      (second.congr (f := fun s => Ledger.turn _ id a before s) fun _ _ => rfl)
  rw [same]
  refine ⟨Accepted.assign accepted (Session.streamOf after id).pending (before.begun after), ?_⟩
  unfold Ledger.turn
  dsimp only
  split
  · next v _ _ => cases v <;> rfl
  · rfl

end Ledger

/-! ### Step by step -/

/-- The stream goes on, and none of the coroutines `D` is run meanwhile. -/
inductive OnwardBut (D : Nat → Prop) (id : Nat) (l : EventLoop) (g : Ledger) :
    EventLoop → Ledger → Prop
  | here : OnwardBut D id l g l g
  | next {l₁ g₁ l₂ g₂} (before : OnwardBut D id l g l₁ g₁) (happens : Happens id l₁ g₁ l₂ g₂)
      (unrun : l₁.store.Unrun D l₂.store) : OnwardBut D id l g l₂ g₂

section

variable {D : Nat → Prop} {id : Nat} {l l' l₁ : EventLoop} {g g' g₁ : Ledger} {st : ChunkStream}

theorem Store.AlikeBut.dequeue {s s' t : Store} {r : Ready} (h : s.AlikeBut D s')
    (next : s.dequeue = some (r, t)) :
    ∃ t', s'.dequeue = some (r, t') ∧ t.AlikeBut D t' ∧ s.Unrun D t ∧ s'.Unrun D t' := by
  obtain ⟨ready, eq, -⟩ := dequeue_eq next
  subst eq
  have next' : s'.dequeue = some (r, { s' with ready }) := by
    rw [h.rest]
    unfold Store.dequeue at next ⊢
    cases taken : s.ready.next? with
    | none =>
      rw [taken] at next
      cases next
    | some p =>
      rw [taken] at next
      obtain ⟨rfl, same⟩ := Prod.mk.inj (Option.some.inj next)
      exact congrArg (fun ready => some (p.1, { s with coroutines := s'.coroutines, ready }))
        (congrArg Store.ready same)
  exact ⟨_, next', h.map (f := fun s => { s with ready }) fun _ _ => rfl, .refl s, .refl s'⟩

namespace Store

open Classical in
/-- A coroutine with the state of the coroutine `c` in another store, if that is one of `D` and unless it
is closed. -/
noncomputable def heldBack (D : Nat → Prop) (s : Store) (c : Nat) (k : Coroutine) : Coroutine :=
  if D c ∧ k.state ≠ .closed then { k with state := s.coroutineState c } else k

/-- A store with the coroutines `D` back where they are in another one, unless they are closed. -/
noncomputable def holdingBack (D : Nat → Prop) (s s₁ : Store) : Store :=
  { s₁ with coroutines := s₁.coroutines.mapIdx (heldBack D s) }

variable {s s' s₁ : Store}

theorem body_heldBack (s : Store) (c : Nat) (k : Coroutine) : (heldBack D s c k).body = k.body := by
  unfold heldBack
  split <;> rfl

theorem heldBack_of_free {c : Nat} (free : ¬ D c) (s : Store) (k : Coroutine) : heldBack D s c k = k :=
  if_neg fun both => free both.1

theorem getElem?_holdingBack (s s₁ : Store) (c : Nat) :
    (holdingBack D s s₁).coroutines[c]? = (s₁.coroutines[c]?).map (heldBack D s c) :=
  Array.getElem?_mapIdx

open Classical in
theorem coroutineState_holdingBack {c : Nat} (hc : D c) (lt : c < s₁.coroutines.size) (s : Store) :
    (holdingBack D s s₁).coroutineState c =
      if s₁.coroutineState c = .closed then .closed else s.coroutineState c := by
  have found := Array.getElem?_eq_getElem lt
  unfold coroutineState
  rw [getElem?_holdingBack, found]
  dsimp only [Option.map_some, Option.getD_some, heldBack]
  by_cases closed : s₁.coroutines[c].state = .closed
  · rw [if_neg fun both => both.2 closed, if_pos closed, closed]
  · rw [if_pos ⟨hc, closed⟩, if_neg closed]
    rfl

/-- The store from before and another one like it go on: the same happens, and none of `D` is run. -/
theorem AlikeBut.holdingBack (alike : s.AlikeBut D s') (unrun : s.Unrun D s₁)
    (size : s.coroutines.size ≤ s₁.coroutines.size) :
    s₁.AlikeBut D (holdingBack D s' s₁) ∧ s'.Unrun D (holdingBack D s' s₁) := by
  classical
  have lt (c : Nat) (hc : D c) : c < s₁.coroutines.size := Nat.lt_of_lt_of_le (alike.there c hc) size
  refine ⟨⟨rfl, fun c => ?_, fun c free => ?_, lt, fun c hc => ⟨?_, ?_⟩⟩, fun c hc => ?_⟩
  · rw [getElem?_holdingBack, Option.map_map]
    exact congrArg (fun f => Option.map f _) (funext (body_heldBack s' c))
  · rw [getElem?_holdingBack]
    have same : heldBack D s' c = id := funext (heldBack_of_free free s')
    rw [same, Option.map_id_fun, id]
  · rcases unrun c hc with same | closed
    · rw [same]
      exact (alike.idle c hc).1
    · rw [closed]
      nofun
  · rw [coroutineState_holdingBack hc (lt c hc)]
    split
    · nofun
    · exact (alike.idle c hc).2
  · rw [coroutineState_holdingBack hc (lt c hc)]
    split
    · exact .inr rfl
    · exact .inl rfl

/-- What a change spares is spared by the same change of a store that is alike, if it is not one of
`D`. -/
theorem Spares.holdingBack {L : Listener → Prop} {T C : Nat → Prop} (spares : s.Spares L T C s₁)
    (alike : s.AlikeBut D s') (free : ∀ c, C c → ¬ D c) :
    s'.Spares L T C (holdingBack D s' s₁) := by
  constructor
  case future =>
    intro w f hf
    have same : s'.futures = s.futures := alike.congr (f := Store.futures) fun _ _ => rfl
    exact spares.future w f (same ▸ hf)
  case told =>
    intro x w listens told
    have same : s'.Told x w = s.Told x w := alike.congr (f := fun s => s.Told x w) fun _ _ => rfl
    exact spares.told x w listens (same ▸ told)
  case coroutine =>
    intro c k' hk'
    have bodies := alike.bodies c
    rw [hk'] at bodies
    obtain ⟨k, hk, same⟩ := Option.map_eq_some_iff.mp bodies.symm
    obtain ⟨k₁, hk₁, becomes⟩ := spares.coroutine c k hk
    refine ⟨heldBack D s' c k₁, by rw [getElem?_holdingBack, hk₁]; rfl, ?_, fun spared => ?_⟩
    · rw [body_heldBack, becomes.body, same]
    · have hk' := (alike.same c (free c spared)).symm.trans hk'
      obtain rfl : k = k' := Option.some.inj (hk.symm.trans hk')
      rw [heldBack_of_free (free c spared), becomes.spared spared]

end Store

/-- What is no business of the stream happens beside a stream that is alike, too. -/
theorem Outside.matched (change : Outside id g l l₁) (alike : l.AlikeBut D l')
    (apart : ∀ a ∈ g.calls, ¬ D a.coroutine) (unrun : l.store.Unrun D l₁.store) :
    ∃ l₁', Outside id g l' l₁' ∧ EventLoop.Agree D l l' l₁ l₁' := by
  obtain ⟨alike₁, unrun'⟩ := alike.store.holdingBack unrun change.spares.coroutines
  have free (c : Nat) : g.Coroutines c → ¬ D c := by
    rintro ⟨a, call, rfl⟩
    exact apart a call
  have stream : l'.store.streams[id]? = l.store.streams[id]? :=
    alike.store.congr (f := fun s => s.streams[id]?) fun _ _ => rfl
  refine ⟨{ l₁ with store := Store.holdingBack D l'.store l₁.store }, ?_, ⟨alike₁, rfl⟩, unrun, unrun'⟩
  exact
    { stream := change.stream.trans stream.symm
      spares := change.spares.holdingBack alike.store free
      lookup := fun a call => (change.lookup a call).trans (by rw [alike.waiting])
      waiting := change.waiting }

/-- A call is away or it waits. -/
theorem Standing.stands (h : Standing id l g st) {a : Call} (call : a ∈ g.calls) :
    a.Away l ∨ ∃ w rounds, a.Paused id w rounds l := by
  cases h.holder with
  | nobody _ away => exact .inl (away a call)
  | @somebody b w rounds _ _ _ waits away =>
    by_cases same : a = b
    · subst same
      exact .inr ⟨w, rounds, waits.toPaused⟩
    · exact .inl (away a call same)

/-! ### The steps of a stream that is alike -/

/-- What happens to a stream has happened to one that is alike, too, and shows the same: one has got
from `l` to `l₁`, and the other one from `l'` to `l₁'`. -/
structure Happens.Matched (D : Nat → Prop) (id : Nat) (l l' : EventLoop) (g' : Ledger) (l₁ : EventLoop)
    (g₁ : Ledger) (l₁' : EventLoop) (g₁' : Ledger) : Prop where
  happens : Happens id l' g' l₁' g₁'
  agree : EventLoop.Agree D l l' l₁ l₁'
  shows : g₁.Shows g₁'
  apart : ∀ a ∈ g₁.calls, ¬ D a.coroutine

theorem EventLoop.AlikeBut.onStream (alike : l.AlikeBut D l')
    (op : Surroundings (StateM Store) → StreamM (StateM Store) Unit)
    (ho : Obeys (Overlook.mk D) (op (Store.surroundings id))) :
    (l'.withStore (Store.onStream id op).run).1 = (l.withStore (Store.onStream id op).run).1 ∧
      EventLoop.Agree D l l' (l.withStore (Store.onStream id op).run).2
        (l'.withStore (Store.onStream id op).run).2 :=
  alike.withStore (Overlook.obeys_onStream id ho).run

namespace Happens.Matched

section

variable (alike : l.AlikeBut D l') (shows : g.Shows g') (apart : ∀ a ∈ g.calls, ¬ D a.coroutine)

include alike shows apart

theorem push (chunk : Value)
    (foreign : ∀ c, .process .coroutine c ∈ l.store.heap.chunkMembers chunk →
      c < l.store.coroutines.size ∧ ∀ a ∈ g.calls, a.coroutine ≠ c) :
    ∃ l₁' g₁', Matched D id l l' g' (l.withStore (pushChunk id chunk).run).2
      (g.accept (l.store.heap.chunkMembers chunk)) l₁' g₁' := by
  obtain ⟨accepted, rfl⟩ := shows
  have same : l'.store.heap.chunkMembers chunk = l.store.heap.chunkMembers chunk :=
    alike.store.congr (f := fun s => s.heap.chunkMembers chunk) fun _ _ => rfl
  obtain ⟨-, agree⟩ := alike.onStream (ChunkStream.push · (l.store.heap.chunkMembers chunk))
    (ChunkStream.obeys_push (Overlook.obeys_surroundings id) _)
  have pushed : Happens id l' { g with accepted } (l'.withStore (pushChunk id chunk).run).2 _ :=
    .push chunk (by rw [same, alike.store.size]; exact foreign)
  have run : (l'.withStore (pushChunk id chunk).run).2 = (l'.withStore (Store.onStream id
      (ChunkStream.push · (l'.store.heap.chunkMembers chunk))).run).2 := rfl
  rw [run, same] at pushed
  refine ⟨_, _, pushed, agree, ?_, ?_⟩
  · exact (Ledger.Shows.accept g _).symm.trans (.trans ⟨accepted, rfl⟩ (.accept _ _))
  · rw [g.calls_accept]
    exact apart

theorem close (fault : Option Fault) :
    ∃ l₁' g₁', Matched D id l l' g' (l.withStore (Store.onStream id (ChunkStream.close · fault)).run).2
      (g.close fault) l₁' g₁' := by
  obtain ⟨accepted, rfl⟩ := shows
  obtain ⟨-, agree⟩ := alike.onStream (ChunkStream.close · fault)
    (ChunkStream.obeys_close (Overlook.obeys_surroundings id) fault)
  exact ⟨_, _, .close fault, agree, ⟨_, rfl⟩, apart⟩

theorem abort (fault : Option Fault) :
    ∃ l₁' g₁', Matched D id l l' g' (l.withStore (Store.onStream id (ChunkStream.abort · fault)).run).2
      (g.abort (Session.streamOf l.store id).waiter
        (l.withStore (Store.onStream id (ChunkStream.abort · fault)).run).1) l₁' g₁' := by
  obtain ⟨accepted, rfl⟩ := shows
  obtain ⟨result, agree⟩ := alike.onStream (ChunkStream.abort · fault)
    (ChunkStream.obeys_abort (Overlook.obeys_surroundings id) fault)
  have waiter : (Session.streamOf l'.store id).waiter = (Session.streamOf l.store id).waiter :=
    alike.store.congr (f := fun s => (Session.streamOf s id).waiter) fun _ _ => rfl
  have aborted : Happens id l' { g with accepted } _ _ := .abort fault
  rw [result, waiter] at aborted
  refine ⟨_, _, aborted, agree, ?_, ?_⟩
  · generalize (l.withStore (Store.onStream id (ChunkStream.abort · fault)).run).1 = r
    cases r <;> exact ⟨accepted, rfl⟩
  · obtain ⟨deserted, ledger⟩ := g.abort_eq (Session.streamOf l.store id).waiter
      (l.withStore (Store.onStream id (ChunkStream.abort · fault)).run).1
    rw [ledger]
    exact apart

theorem call (name : String) (size : Option Int) :
    ∃ l₁' g₁', Matched D id l l' g'
      (l.withStore (Session.startCall name (.call id (.pull size))).run).2
      { g with calls := ⟨l.store.futures.size, l.store.coroutines.size, size⟩ :: g.calls }
      l₁' g₁' := by
  obtain ⟨accepted, rfl⟩ := shows
  have started : Obeys (Overlook.mk D) (Session.startCall name (.call id (.pull size))) :=
    (Act.obeys_always (Overlook.obeys_newCoroutine _)).bind fun c =>
      Act.obeys_always (Overlook.obeys_newTask c _)
  obtain ⟨-, agree⟩ := alike.withStore started.run
  have called : Happens id l' { g with accepted } _ _ := .call name size
  have futures : l'.store.futures = l.store.futures :=
    alike.store.congr (f := Store.futures) fun _ _ => rfl
  rw [futures, alike.store.size] at called
  refine ⟨_, _, called, agree, ⟨_, rfl⟩, fun a call => ?_⟩
  rcases List.mem_cons.mp call with rfl | call
  · exact fun hc => Nat.lt_irrefl _ (alike.store.there _ hc)
  · exact apart a call

theorem turn {a : Call} {r : Ready} {t : Store} (standing : Standing id l g st) (call : a ∈ g.calls)
    (next : l.store.dequeue = some (r, t)) (resumes : r.Resumes a.task) :
    ∃ l₁' g₁', Matched D id l l' g' (EventLoop.dispatch r { l with store := t })
      (g.turn id a l.store (EventLoop.dispatch r { l with store := t }).store) l₁' g₁' := by
  obtain ⟨t', next', taken, unrun, unrun'⟩ := alike.store.dequeue next
  have alike' : { l with store := t }.AlikeBut D { l' with store := t' } := ⟨taken, alike.waiting⟩
  -- The same is thrown into both.
  obtain ⟨accepted, rfl⟩ := shows
  have same : r.thrown t' = r.thrown t := taken.congr (f := fun s => r.thrown s) fun _ _ => by
    cases r <;> rfl
  have step := resumes.dispatch { l with store := t }
  have step' := resumes.dispatch { l' with store := t' }
  rw [same] at step'
  generalize r.thrown t = thrown at step step'
  obtain ⟨ready, rfl, -⟩ := Store.dequeue_eq next
  have placed : a.Placed id l.store := standing.placed a call
  have stands : a.Away { l with store := { l.store with ready } } ∨
      ∃ w rounds, a.Paused id w rounds { l with store := { l.store with ready } } := by
    rcases standing.stands call with away | ⟨w, rounds, paused⟩
    · exact .inl (away.ready ready)
    · exact .inr ⟨w, rounds, paused.ready ready⟩
  have after := alike'.stepTask (apart a call) ⟨placed.task, placed.coroutine⟩ stands thrown
  rw [← step, ← step'] at after
  refine ⟨_, _, .turn call next' resumes,
    ⟨after.alike, unrun.trans after.unrun.1, unrun'.trans after.unrun.2⟩,
    .turn ⟨accepted, rfl⟩ alike.store after.alike.store id a, ?_⟩
  obtain ⟨_, _, _, ledger⟩ := g.turn_eq id a l.store
    (EventLoop.dispatch r { l with store := { l.store with ready } }).store
  rw [ledger]
  exact apart

theorem notice {w : Nat} {t : Store} (next : l.store.dequeue = some (.notice id w, t)) :
    ∃ l₁' g₁', Matched D id l l' g' (EventLoop.dispatch (.notice id w) { l with store := t }) g
      l₁' g₁' := by
  obtain ⟨accepted, rfl⟩ := shows
  obtain ⟨t', next', taken, unrun, unrun'⟩ := alike.store.dequeue next
  have alike' : { l with store := t }.AlikeBut D { l' with store := t' } := ⟨taken, alike.waiting⟩
  obtain ⟨-, after⟩ := alike'.onStream (ChunkStream.noticed · w)
    (ChunkStream.obeys_noticed (Overlook.obeys_surroundings id) w)
  exact ⟨_, _, .notice next', ⟨after.alike, unrun.trans after.unrun.1, unrun'.trans after.unrun.2⟩,
    ⟨_, rfl⟩, apart⟩

theorem cancel {a : Call} (call : a ∈ g.calls) :
    ∃ l₁' g₁', Matched D id l l' g' (l.withStore (Store.cancel a.task)).2 g l₁' g₁' := by
  obtain ⟨accepted, rfl⟩ := shows
  obtain ⟨-, agree⟩ := alike.withStore (Overlook.obeys_cancel _)
  exact ⟨_, _, .cancel call, agree, ⟨_, rfl⟩, apart⟩

theorem settle {w : Nat} {p : Progress} (pending : l.store.isPending w) (done : p ≠ .pending)
    (foreign : ∀ a ∈ g.calls, w ≠ a.task) :
    ∃ l₁' g₁', Matched D id l l' g' (l.withStore (Store.complete w p)).2 g l₁' g₁' := by
  obtain ⟨accepted, rfl⟩ := shows
  obtain ⟨-, agree⟩ := alike.withStore (Overlook.obeys_complete w _)
  have same : l'.store.isPending w = l.store.isPending w :=
    alike.store.congr (f := fun s => s.isPending w) fun _ _ => rfl
  exact ⟨_, _, .settle (same ▸ pending) done foreign, agree, ⟨_, rfl⟩, apart⟩

theorem outside (change : Outside id g l l₁) (unrun : l.store.Unrun D l₁.store) :
    ∃ l₁' g₁', Matched D id l l' g' l₁ g l₁' g₁' := by
  obtain ⟨accepted, rfl⟩ := shows
  obtain ⟨l₁', change', agree⟩ := change.matched alike apart unrun
  exact ⟨l₁', _, .outside ⟨change'.stream, change'.spares, change'.lookup, change'.waiting⟩, agree,
    ⟨_, rfl⟩, apart⟩

end

end Happens.Matched

/-- Whatever can happen to a stream can happen to one that is alike, and it shows the same. -/
theorem Happens.matched (happens : Happens id l g l₁ g₁) (standing : Standing id l g st)
    (alike : l.AlikeBut D l') (shows : g.Shows g') (apart : ∀ a ∈ g.calls, ¬ D a.coroutine)
    (unrun : l.store.Unrun D l₁.store) : ∃ l₁' g₁', Matched D id l l' g' l₁ g₁ l₁' g₁' := by
  cases happens with
  | push chunk foreign => exact Matched.push alike shows apart chunk foreign
  | close fault => exact Matched.close alike shows apart fault
  | abort fault => exact Matched.abort alike shows apart fault
  | call name size => exact Matched.call alike shows apart name size
  | turn call next resumes => exact Matched.turn alike shows apart standing call next resumes
  | notice next => exact Matched.notice alike shows apart next
  | cancel call => exact Matched.cancel alike shows apart call
  | settle pending done foreign => exact Matched.settle alike shows apart pending done foreign
  | outside change => exact Matched.outside alike shows apart change unrun

/-- Whatever course a stream takes on can be taken by one that is alike, and it shows the same. -/
theorem OnwardBut.matched (h : OnwardBut D id l g l₁ g₁) (standing : Standing id l g st)
    (alike : l.AlikeBut D l') (shows : g.Shows g') (apart : ∀ a ∈ g.calls, ¬ D a.coroutine) :
    ∃ l₁' g₁', OnwardBut D id l' g' l₁' g₁' ∧ l₁.AlikeBut D l₁' ∧ g₁.Shows g₁' ∧
      (∀ a ∈ g₁.calls, ¬ D a.coroutine) ∧ ∃ st₁, Standing id l₁ g₁ st₁ := by
  induction h with
  | here => exact ⟨l', g', .here, alike, shows, apart, st, standing⟩
  | next before happens unrun ih =>
    obtain ⟨l₁', g₁', before', alike₁, shows₁, apart₁, st₁, standing₁⟩ := ih
    obtain ⟨l₂', g₂', m⟩ := happens.matched standing₁ alike₁ shows₁ apart₁ unrun
    obtain ⟨st₂, standing₂, -⟩ := standing₁.happens happens
    exact ⟨l₂', g₂', before'.next m.happens m.agree.unrun.2, m.agree.alike, m.shows, m.apart, st₂,
      standing₂⟩

/-! ### Pushes to a closed stream -/

theorem EventLoop.AlikeBut.eq_of_none (h : l.AlikeBut D l') (none : ∀ c, ¬ D c) : l' = l := by
  have same : l'.store = l.store := by
    have coroutines : l'.store.coroutines = l.store.coroutines :=
      Array.ext_getElem? fun c => h.store.same c (none c)
    rw [h.store.rest, coroutines]
  have waiting := h.waiting
  cases l
  cases l'
  cases same
  cases waiting
  rfl

/-- A push to a stream that is closed returns and changes nothing, except that the coroutines of the chunk
that are not over are closed. As long as these are not run, whatever can happen to the stream after
the push can happen without it, and the other way round, and it shows consumers the same. A coroutine
that is running just then is another matter: it cannot be closed. -/
theorem Course.push_late {chunk : Value} {members : List Value} {result : Except Fault Unit}
    (course : Course id l g) (stream : l.store.streams[id]? = some st) (closed : st.closed = true)
    (here : l.store.heap.chunkMembers chunk = members)
    (foreign : ∀ c, .process .coroutine c ∈ members →
      c < l.store.coroutines.size ∧ ∀ a ∈ g.calls, a.coroutine ≠ c)
    (idle : ∀ c, .process .coroutine c ∈ members → l.store.coroutineState c ≠ .running)
    (pushed : l.withStore (pushChunk id chunk).run = (result, l')) :
    result = .ok () ∧
      l.AlikeBut (l.store.Unfinished members) l' ∧
      (∀ c, .process .coroutine c ∈ members → l'.store.coroutineState c = .closed) ∧
      ((∀ c, ¬ l.store.Unfinished members c) → l' = l) ∧
      (∀ l₁ g₁, OnwardBut (l.store.Unfinished members) id l g l₁ g₁ →
        ∃ l₁' g₁', OnwardBut (l.store.Unfinished members) id l' (g.accept members) l₁' g₁' ∧
          l₁.AlikeBut (l.store.Unfinished members) l₁' ∧ g₁.Shows g₁') ∧
      (∀ l₁' g₁', OnwardBut (l.store.Unfinished members) id l' (g.accept members) l₁' g₁' →
        ∃ l₁ g₁, OnwardBut (l.store.Unfinished members) id l g l₁ g₁ ∧
          l₁.AlikeBut (l.store.Unfinished members) l₁' ∧ g₁.Shows g₁') := by
  subst here
  let D := l.store.Unfinished (l.store.heap.chunkMembers chunk)
  have later := course.next (.push chunk foreign)
  rw [pushed] at later
  obtain ⟨st₀, standing⟩ := course.standing
  obtain ⟨st', standing'⟩ := later.standing
  obtain rfl : st₀ = st := Option.some.inj (standing.stream.symm.trans stream)
  -- The push closes the coroutines and puts the stream back as it was.
  have does := ChunkStream.does_push id st₀ l.store (l.store.heap.chunkMembers chunk)
  rw [if_pos closed] at does
  let op (host : Surroundings (StateM Store)) : StreamM (StateM Store) Unit :=
    ChunkStream.push host (l.store.heap.chunkMembers chunk)
  have run : l.withStore (Store.onStream id op).run = _ := Standing.withStore_onStream stream does
  have pushed : l.withStore (Store.onStream id op).run = (result, l') := pushed
  obtain ⟨rfl, rfl⟩ := Prod.mk.inj (pushed.symm.trans run)
  have unchanged : (Store.disposal (l.store.heap.chunkMembers chunk) l.store).2.setStream id st₀ =
      (Store.disposal (l.store.heap.chunkMembers chunk) l.store).2 := by
    refine Store.setStream_self ?_
    obtain ⟨coroutines, eq⟩ := Store.disposal_eq (l.store.heap.chunkMembers chunk) l.store
    rw [eq]
    exact stream
  have alike : l.AlikeBut D
      { l with store := (Store.disposal (l.store.heap.chunkMembers chunk) l.store).2 } :=
    ⟨Store.alikeBut_disposal idle, rfl⟩
  have apart : ∀ a ∈ g.calls, ¬ D a.coroutine :=
    fun a call unfinished => (foreign _ unfinished.1).2 a call rfl
  have apart' : ∀ a ∈ (g.accept (l.store.heap.chunkMembers chunk)).calls, ¬ D a.coroutine := by
    rw [g.calls_accept]
    exact apart
  rw [unchanged] at standing' ⊢
  refine ⟨Store.disposal_of_free idle, alike, fun c member => ?_, alike.eq_of_none, fun l₁ g₁ goes => ?_,
    fun l₁' g₁' goes => ?_⟩
  · unfold Store.coroutineState
    dsimp only
    rw [(Store.coroutines_disposal idle c).1 member]
    cases l.store.coroutines[c]? <;> rfl
  · obtain ⟨l₁', g₁', goes', alike₁, shows, -⟩ := goes.matched standing alike (.accept g _) apart
    exact ⟨l₁', g₁', goes', alike₁, shows⟩
  · obtain ⟨l₁, g₁, goes', alike₁, shows, -⟩ :=
      goes.matched standing' alike.symm (Ledger.Shows.accept g _).symm apart'
    exact ⟨l₁, g₁, goes', alike₁.symm, shows.symm⟩

/-- A coroutine that the stream still has in its queue is closed when it is pushed again, late. -/
theorem Course.exists_push_late : ∃ l g l' st, Course 0 l g ∧ l.store.streams[0]? = some st ∧
    st.closed = true ∧ st.queued = [.process .coroutine 0] ∧
    l.store.coroutineState 0 = .created ∧
    l.withStore (pushChunk 0 (.process .coroutine 0)).run = (.ok (), l') ∧
    l'.store.coroutineState 0 = .closed := by
  have opened : Course 0 _ _ :=
    .start (l := { store := { coroutines := #[{ body := .script [] }] } }) rfl nofun
  have first (c : Nat) (mem : .process .coroutine c ∈ [Value.process .coroutine 0]) : c = 0 := by
    cases List.mem_singleton.mp mem
    rfl
  have known (c : Nat) (mem : .process .coroutine c ∈ [Value.process .coroutine 0]) : c < 1 :=
    first c mem ▸ Nat.one_pos
  have pushed := opened.next (.push (.process .coroutine 0) fun c mem => ⟨known c mem, nofun⟩)
  have ended := pushed.next (.close none)
  have here : ({} : Heap).chunkMembers (.process .coroutine 0) = [.process .coroutine 0] := rfl
  have late := ended.push_late rfl rfl here
    (fun c mem => ⟨known c mem, nofun⟩) ?idle rfl
  · obtain ⟨returns, -, after, -⟩ := late
    exact ⟨_, _, _, _, ended, rfl, rfl, rfl, rfl, Prod.ext returns rfl, after 0 (.head _)⟩
  case idle =>
    intro c mem
    cases first c mem
    decide

end

end StreamTemplate
