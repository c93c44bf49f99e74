import StreamTemplate.Proofs.Stream.Course

/-!
# Where a stream is among its sources

The accepted sources in order, and within each source what it contributes, are a list of slots. A
stream goes through this list: the slots before its place are over with and have been delivered, and
the queue holds the sources behind it. `Place` says where that is in each phase of the stream, and an
advance moves the place by the slots whose values it brings.
-/

namespace StreamTemplate

/-- A slot has yielded what it contributes. -/
def Slot.Over (s : Store) : Slot → Prop
  | ready _ => True
  | awaited _ w => ∃ v, s.progress w = .finished v

/-- A slot that is over with yields what it has yielded. -/
theorem Slot.Over.grows {s s' : Store} {slot : Slot} (h : slot.Over s) (grows : s.Grows s') :
    slot.Over s' ∧ slot.yield s' = slot.yield s := by
  cases slot with
  | ready v => exact ⟨trivial, rfl⟩
  | awaited kind w =>
    obtain ⟨v, finished⟩ := h
    have same : s'.progress w = s.progress w := by
      refine grows.progress (Store.lt_of_finished finished) ?_
      rw [Store.not_isPending_iff, finished]
      nofun
    exact ⟨⟨v, same.trans finished⟩, congrArg kind.yield same⟩

theorem yields_grows {s s' : Store} {slots : List Slot} (past : ∀ slot ∈ slots, slot.Over s)
    (grows : s.Grows s') :
    (∀ slot ∈ slots, slot.Over s') ∧
      slots.flatMap (·.yield s') = slots.flatMap (·.yield s) := by
  refine ⟨fun slot hs => ((past slot hs).grows grows).1, ?_⟩
  rw [List.flatMap_def, List.flatMap_def]
  congr 1
  exact List.map_congr_left fun slot hs => ((past slot hs).grows grows).2

namespace Accepted

/-- The slots of sources, in order. -/
def slotsOf (accepted : List Accepted) : List Slot :=
  accepted.flatMap (·.slots)

@[simp]
theorem slotsOf_append (accepted accepted' : List Accepted) :
    slotsOf (accepted ++ accepted') = slotsOf accepted ++ slotsOf accepted' :=
  List.flatMap_append

@[simp]
theorem slotsOf_cons (e : Accepted) (accepted : List Accepted) :
    slotsOf (e :: accepted) = e.slots ++ slotsOf accepted :=
  List.flatMap_cons

theorem assign_nil (accepted : List Accepted) (pending : Nat) : assign accepted pending [] = accepted := by
  have same : (fun e : Accepted => { e with work := e.work ++ [] }) = id := by
    funext e
    simp
  unfold assign
  rw [same, List.modify_id]

theorem assign_append (taken rest : List Accepted) (e : Accepted) (work : List Nat) :
    assign (taken ++ e :: rest) rest.length work =
      taken ++ { e with work := e.work ++ work } :: rest := by
  have last : (taken ++ e :: rest).length - rest.length - 1 = taken.length := by
    simp only [List.length_append, List.length_cons]
    omega
  unfold assign
  rw [last]
  clear last
  induction taken with
  | nil => rfl
  | cons first taken ih => exact congrArg (first :: ·) ih

/-- More work of a substream means more slots. -/
theorem slots_work {e : Accepted} (kind : e.source.kind = .substream) (w : Nat) :
    slots { e with work := e.work ++ [w] } = e.slots ++ [.awaited e.source.kind w] := by
  unfold slots
  simp [kind]

/-- Awaiting a source is its only slot. -/
theorem slots_startAwaiting {source : Source} (kind : source.kind = .deferred) {s s' : Store}
    {w : Nat} (begun : (Store.startAwaiting source.value).run s = (w, s')) :
    slots { source, work := s.begun s' } = [.awaited source.kind w] := by
  obtain ⟨_, v⟩ := source
  cases kind
  change (Store.startAwaiting v).run s = (w, s') at begun
  unfold Store.startAwaiting at begun
  split at begun
  · cases begun
    rfl
  · cases begun
    rfl
  · next c =>
    have began : s.begun s' = [w] := by
      cases begun
      exact Store.begun_newTask c none s
    rw [began]
    rfl
  · next future task _ =>
    have began : s.begun s' = [w] := by
      cases begun
      exact Store.begun_newTask s.coroutines.size none ((Store.newCoroutine (.await v)).run s).2
    rw [began]
    unfold slots
    split
    · contradiction
    · next w' _ same => exact absurd same (future w')
    · next w' _ same => exact absurd same (task w')
    · rfl

end Accepted

namespace ChunkStream

open Accepted (slotsOf slotsOf_append slotsOf_cons)

/-- The sources in the queue, for which nothing was begun. -/
def coming (st : ChunkStream) : List Accepted :=
  st.queue.toList.map fun source => { source }

/-- The stream is closed as the ledger has it. -/
structure Linked (closing : Option (Option Fault)) (st : ChunkStream) : Prop where
  closed : st.closed = closing.isSome
  fault : st.closeFault = closing.join

/-- Nothing will come out of the stream any more: it has failed, or has let go of its source. -/
def Stopped (st : ChunkStream) : Prop :=
  st.phase = .errored ∨ st.phase = .draining ∧ st.inflight = none ∧ st.iterator = none

/-- The place of a stream, when the slots in `done` are over with. -/
inductive Place (closing : Option (Option Fault)) (accepted : List Accepted) (st : ChunkStream)
    (done : List Slot) : Prop where
  | idle {taken} (phase : st.phase = .idle) (iterator : st.iterator = none)
      (linked : st.Linked closing) (split : accepted = taken ++ st.coming)
      (slots : slotsOf taken = done)
  | ended (phase : st.phase = .ended) (closed : st.closed = true) (plainly : closing = some none)
      (slots : slotsOf accepted = done)
  | between {taken e it} (phase : st.phase = .draining) (inflight : st.inflight = none)
      (iterator : st.iterator = some it) (active : st.active = some e.source)
      (kind : e.source.kind = .substream) (linked : st.Linked closing)
      (split : accepted = taken ++ e :: st.coming) (slots : slotsOf taken ++ e.slots = done)
  | awaiting {taken e w} (phase : st.phase = .draining) (inflight : st.inflight = some w)
      (active : st.active = some e.source)
      (kind : e.source.kind = .deferred ∨ e.source.kind = .substream ∧ st.iterator ≠ none)
      (linked : st.Linked closing) (split : accepted = taken ++ e :: st.coming)
      (slots : slotsOf taken ++ e.slots = done ++ [.awaited e.source.kind w])
  | past {rest} (stopped : st.Stopped) (slots : slotsOf accepted = done ++ rest)

section

variable {id : Nat} {size : Option Int} {closing : Option (Option Fault)}
  {accepted : List Accepted} {st st' : ChunkStream} {s s' : Store} {done : List Slot}

theorem slotsOf_split {taken : List Accepted} {e : Accepted} (split : accepted = taken ++ e :: st.coming) :
    slotsOf accepted = slotsOf taken ++ e.slots ++ slotsOf st.coming := by
  rw [split, slotsOf_append, slotsOf_cons, List.append_assoc]

namespace Place

/-- What is over with comes first. -/
theorem rest (h : Place closing accepted st done) : ∃ rest, slotsOf accepted = done ++ rest := by
  cases h with
  | idle _ _ _ split slots =>
    exact ⟨slotsOf st.coming, by rw [split, ← slots, slotsOf_append]⟩
  | ended _ _ _ slots => exact ⟨[], by rw [slots, List.append_nil]⟩
  | between _ _ _ _ _ _ split slots =>
    exact ⟨slotsOf st.coming, by rw [slotsOf_split split, slots]⟩
  | awaiting _ _ _ _ _ split slots =>
    exact ⟨_, by rw [slotsOf_split split, slots, List.append_assoc]⟩
  | past _ slots => exact ⟨_, slots⟩

/-- The place does not depend on who pulls. -/
theorem pulled (h : Place closing accepted st done) {waiter : Option Nat} {demand : Option Int}
    {pulling : Bool} : Place closing accepted { st with waiter, demand, pulling } done := by
  cases h with
  | idle phase iterator linked split slots =>
    exact .idle phase iterator ⟨linked.closed, linked.fault⟩ split slots
  | ended phase closed plainly slots => exact .ended phase closed plainly slots
  | between phase inflight iterator active kind linked split slots =>
    exact .between phase inflight iterator active kind ⟨linked.closed, linked.fault⟩ split slots
  | awaiting phase inflight active kind linked split slots =>
    exact .awaiting phase inflight active kind ⟨linked.closed, linked.fault⟩ split slots
  | past stopped slots => exact .past stopped slots

/-! ### The producer's side -/

theorem failed (h : Place closing accepted st done) (fault : Fault) :
    Place closing accepted (st.failed fault) done := by
  obtain ⟨rest, slots⟩ := h.rest
  exact .past (.inl rfl) slots

theorem detached (h : Place closing accepted st done) : Place closing accepted st.detached done := by
  obtain ⟨rest, slots⟩ := h.rest
  cases h with
  | idle phase _ linked split taken =>
    exact .idle phase rfl ⟨linked.closed, linked.fault⟩ split taken
  | ended phase closed plainly slots => exact .ended phase closed plainly slots
  | between phase | awaiting phase => exact .past (.inr ⟨phase, rfl, rfl⟩) slots
  | past stopped =>
    rcases stopped with errored | ⟨draining, -⟩
    · exact .past (.inl errored) slots
    · exact .past (.inr ⟨draining, rfl, rfl⟩) slots

theorem fails (h : Place closing accepted st done) {fault e : Fault}
    (fails : Fails id fault st s e st' s') : Place closing accepted st' done := by
  cases fails with
  | through => exact h.failed fault
  | cutShort => exact h.detached

theorem abort (h : Place closing accepted st done) {fault : Fault} {r : Except Fault Unit}
    (aborts : Aborts id fault st s r st' s') : Place closing accepted st' done := by
  cases aborts with
  | late => exact h
  | through => exact h.failed fault
  | cutShort => exact h.detached

/-- A stream that takes no more input is not closed again. -/
theorem getD_of_closed (linked : st.Linked closing) (closed : st.closed = true) (fault : Option Fault) :
    some (closing.getD fault) = closing := by
  rw [linked.closed] at closed
  obtain ⟨f, rfl⟩ := Option.isSome_iff_exists.mp closed
  rfl

theorem closing_of_opened (linked : st.Linked closing) (opened : st.closed = false) :
    closing = none := by
  rw [linked.closed] at opened
  simpa using opened

theorem close (h : Place closing accepted st done) {fault : Option Fault}
    (closes : Closes fault st s st' s') : Place (some (closing.getD fault)) accepted st' done := by
  cases closes with
  | again closed =>
    have place := h
    cases h with
    | idle _ _ linked | between _ _ _ _ _ linked | awaiting _ _ _ _ linked =>
      rw [getD_of_closed linked closed]
      exact place
    | ended _ _ plainly =>
      subst plainly
      exact place
    | past stopped slots => exact .past stopped slots
  | first opened =>
    have link (linked : st.Linked closing) : some (closing.getD fault) = some fault := by
      rw [closing_of_opened linked opened]
      rfl
    cases h with
    | idle phase iterator linked split slots =>
      rw [link linked]
      exact .idle phase iterator ⟨rfl, rfl⟩ split slots
    | between phase inflight iterator active kind linked split slots =>
      rw [link linked]
      exact .between phase inflight iterator active kind ⟨rfl, rfl⟩ split slots
    | awaiting phase inflight active kind linked split slots =>
      rw [link linked]
      exact .awaiting phase inflight active kind ⟨rfl, rfl⟩ split slots
    | ended _ closed => rw [closed] at opened; cases opened
    | past stopped slots => exact .past stopped slots

theorem push {g : Ledger} (h : Place g.closing g.accepted st done) {members : List Value}
    (pushes : Pushes members st s st' s') :
    Place (g.accept members).closing (g.accept members).accepted st' done := by
  cases pushes with
  | dropped closed =>
    have closed (linked : st.Linked g.closing) : g.accept members = g :=
      Ledger.accept_of_closed (linked.closed ▸ closed) members
    have place := h
    cases h with
    | idle _ _ linked | between _ _ _ _ _ linked | awaiting _ _ _ _ linked =>
      rw [closed linked]
      exact place
    | ended _ _ plainly =>
      rw [Ledger.accept_of_closed (by rw [plainly]; rfl)]
      exact place
    | past stopped slots =>
      obtain ⟨new, ledger⟩ := g.accept_eq members
      rw [ledger]
      exact .past stopped (by rw [slotsOf_append, slots, List.append_assoc])
  | refused opened flat =>
    rw [Ledger.accept_of_refused flat]
    exact h
  | nothing opened flat =>
    rw [Ledger.accept_of_nothing flat]
    exact h
  | @taken sources opened flat =>
    let fresh : List Accepted := sources.map fun source => { source }
    have coming : ({ st with queue := st.queue.append sources }).coming = st.coming ++ fresh := by
      simp [ChunkStream.coming, fresh]
    have taken (linked : st.Linked g.closing) :
        g.accept members = { g with accepted := g.accepted ++ fresh } :=
      Ledger.accept_of_flatten (closing_of_opened linked opened) flat
    cases h with
    | idle phase iterator linked split slots =>
      rw [taken linked]
      refine .idle phase iterator ⟨linked.closed, linked.fault⟩ ?_ slots
      rw [coming, split, List.append_assoc]
    | between phase inflight iterator active kind linked split slots =>
      rw [taken linked]
      refine .between phase inflight iterator active kind ⟨linked.closed, linked.fault⟩ ?_ slots
      rw [coming, split, List.append_assoc, List.cons_append]
    | awaiting phase inflight active kind linked split slots =>
      rw [taken linked]
      refine .awaiting phase inflight active kind ⟨linked.closed, linked.fault⟩ ?_ slots
      rw [coming, split, List.append_assoc, List.cons_append]
    | ended _ closed => rw [closed] at opened; cases opened
    | past stopped slots =>
      obtain ⟨new, ledger⟩ := g.accept_eq members
      rw [ledger]
      exact .past stopped (by rw [slotsOf_append, slots, List.append_assoc])

end Place

end

end ChunkStream

end StreamTemplate
