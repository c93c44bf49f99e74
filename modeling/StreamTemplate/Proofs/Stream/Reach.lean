import StreamTemplate.Proofs.Stream.Place

/-!
# How an advance moves a stream

An advance moves the place of a stream by slots that are over with, and the chunk that it brings is
what those slots yield. The cases are those of `Advances`, `Serves` and `Settles`.
-/

namespace StreamTemplate.ChunkStream

open Accepted (slotsOf slotsOf_append slotsOf_cons assign assign_nil assign_append)

/-- The chunk that an advance brings. -/
def Advance.chunk? : Advance → Option Value
  | .chunk v => some v
  | _ => none

/-- What slots yield comes out as it should: as one chunk, normalized, or as nothing. -/
def Brings (s : Store) (raws : List Value) : Except Fault (Option Value) → Prop
  | .ok (some v) => ∃ raw, raws = [raw] ∧ v = s.heap.normalize raw
  | _ => raws = []

/-- A stream has come to its place by slots that bring a result. -/
def Reaches (closing : Option (Option Fault)) (accepted : List Accepted) (done : List Slot)
    (r : Except Fault (Option Value)) (st : ChunkStream) (s : Store) : Prop :=
  ∃ new, Place closing accepted st (done ++ new) ∧ (∀ slot ∈ new, slot.Over s) ∧
    Brings s (new.flatMap (·.yield s)) r

section

variable {id : Nat} {size : Option Int} {closing : Option (Option Fault)}
  {accepted taken : List Accepted} {e : Accepted} {source : Source} {sources : List Source}
  {st st' : ChunkStream} {s s' : Store} {done : List Slot} {w : Nat} {p : Progress}

theorem map_chunk_chunk? (r : Except Fault Value) :
    (r.map Advance.chunk).map Advance.chunk? = r.map some := by
  cases r <;> rfl

theorem still_heard (s : Store) (stream work : Nat) : s.Still (s.heard stream work) :=
  ⟨Store.spares_listen .., Store.size_listen ..⟩

theorem Fails.still {fault e : Fault} (h : Fails id fault st s e st' s') : s.Still s' := by
  cases h with
  | through disposed =>
    exact (Store.still_unheard ..).trans ((Store.still_disposal disposed).trans (Store.still_woken ..))
  | cutShort disposed => exact (Store.still_unheard ..).trans (Store.still_disposal disposed)

theorem Settles.still {r : Except Fault (Option Value)} (h : Settles id source st s p r st' s') :
    s.Still s' := by
  cases h with
  | cancelled fails | failed fails | badResult _ _ fails | badItem _ _ fails => exact fails.still
  | result | item | exhausted => exact .refl s

/-- A stream that fails while it drains is stopped. -/
theorem Fails.stopped {fault e : Fault} (h : Fails id fault st s e st' s')
    (phase : st.phase = .draining) : st'.Stopped := by
  cases h with
  | through => exact .inl rfl
  | cutShort => exact .inr ⟨phase, rfl, rfl⟩

theorem Reaches.stay {r : Except Fault (Option Value)} (place : Place closing accepted st done)
    (nothing : ∀ v, r ≠ .ok (some v)) : Reaches closing accepted done r st s := by
  refine ⟨[], by rwa [List.append_nil], nofun, ?_⟩
  match r with
  | .error _ | .ok none => rfl
  | .ok (some v) => exact absurd rfl (nothing v)

/-! ### The work in flight is done -/

theorem Settles.reaches {r : Except Fault (Option Value)}
    (h : Settles id e.source st.landed s p r st' s') (phase : st.phase = .draining)
    (kind : e.source.kind = .deferred ∨ e.source.kind = .substream ∧ st.iterator ≠ none)
    (active : st.active = some e.source) (linked : st.Linked closing)
    (split : accepted = taken ++ e :: st.coming)
    (slots : slotsOf taken ++ e.slots = done ++ [.awaited e.source.kind w])
    (progress : s.progress w = p) : Reaches closing accepted done r st' s' := by
  have rest : slotsOf accepted = done ++ ([.awaited e.source.kind w] ++ slotsOf st.coming) := by
    rw [slotsOf_split split, slots, List.append_assoc]
  have released : Place closing accepted st.landed.released (done ++ [.awaited e.source.kind w]) := by
    have split' : accepted = (taken ++ [e]) ++ st.coming := by
      rw [split, List.append_assoc]
      rfl
    refine .idle rfl rfl ⟨linked.closed, linked.fault⟩ split' ?_
    rw [slotsOf_append, ← slots]
    simp [slotsOf]
  have past {s : Store} {v : Value} (progress : s.progress w = .finished v) :
      ∀ slot ∈ [Slot.awaited e.source.kind w], slot.Over s := by
    intro slot hs
    rw [List.mem_singleton.mp hs]
    exact ⟨v, progress⟩
  have yields (s : Store) : [Slot.awaited e.source.kind w].flatMap (·.yield s) =
      e.source.kind.yield (s.progress w) := by simp [Slot.yield]
  cases h with
  | cancelled fails | failed fails => exact .stay (.past (fails.stopped phase) rest) nofun
  | @result v deferred emission =>
    refine ⟨_, released, past progress, v, ?_, rfl⟩
    rw [yields, progress, deferred]
    simp [SourceKind.yield, emission]
  | @badResult v _ _ _ deferred emission fails =>
    have grows := yields_grows (past progress) fails.still.grows
    refine ⟨_, released.fails fails, grows.1, ?_⟩
    rw [grows.2, yields, progress, deferred]
    simp [Brings, SourceKind.yield, emission]
  | @item tuple v substream emission =>
    have substream : e.source.kind = .substream ∧ st.iterator ≠ none :=
      kind.resolve_left substream
    obtain ⟨it, iterator⟩ := Option.ne_none_iff_exists'.mp substream.2
    refine ⟨[.awaited e.source.kind w], .between phase rfl iterator active substream.1
      ⟨linked.closed, linked.fault⟩ split slots, past progress, v, ?_, rfl⟩
    rw [yields, progress, substream.1]
    simp [SourceKind.yield, emission]
  | badItem _ _ fails => exact .stay (.past (fails.stopped phase) rest) nofun
  | @exhausted v substream item =>
    have substream : e.source.kind = .substream := (kind.resolve_left substream).1
    refine ⟨_, released, past progress, ?_⟩
    rw [yields, progress, substream]
    show SourceKind.yield .substream (.finished v) = []
    unfold SourceKind.yield
    split
    · contradiction
    · next same =>
      cases same
      exact absurd rfl (item _ _)
    · rfl

/-! ### An idle stream goes on -/

/-- As much is to come as is in the queue. -/
theorem pending_eq (st : ChunkStream) : st.pending = st.coming.length := by
  unfold ChunkStream.pending ChunkStream.coming
  rw [List.length_map, Queue.length_toList]

/-- Where nothing is begun nothing is taken down. -/
theorem assign_still (still : s.Still s') (accepted : List Accepted) (n : Nat) :
    assign accepted n (s.begun s') = accepted := by
  rw [still.begun, assign_nil]

/-- Work is taken down for the source that has just left the queue. -/
theorem assign_coming (queue : st.queue.toList = source :: sources)
    (split : accepted = taken ++ st.coming) (after : st'.queue = .ofList sources) (work : List Nat) :
    assign accepted st'.pending work = taken ++ { source, work } :: st'.coming := by
  have coming : st.coming = { source } :: st'.coming := by
    unfold ChunkStream.coming
    rw [queue, after]
    rfl
  rw [split, coming, pending_eq, assign_append]
  rfl

/-- Awaiting a source is work that is there already, or pending. -/
theorem startAwaiting_eq {v : Value} (begun : (Store.startAwaiting v).run s = (w, s')) :
    s' = s ∨ s'.progress w = .pending := by
  have fresh (c : Nat) (s : Store) : ((Store.newTask c none).run s).2.progress s.futures.size =
      .pending := by
    unfold Store.progress
    show ((s.futures.push _)[s.futures.size]?.map _).getD _ = _
    rw [Array.getElem?_push_size]
    rfl
  unfold Store.startAwaiting at begun
  split at begun
  · cases begun
    exact .inl rfl
  · cases begun
    exact .inl rfl
  · next c =>
    cases begun
    exact .inr (fresh c s)
  · next v _ _ _ =>
    cases begun
    exact .inr (fresh s.coroutines.size ((Store.newCoroutine (.await v)).run s).2)

/-- Awaiting that is settled at once is awaiting what is there already. -/
theorem startAwaiting_of_settled {v : Value} (begun : (Store.startAwaiting v).run s = (w, s'))
    (done : ¬ (s'.heard id w).isPending w) : s' = s := by
  refine (startAwaiting_eq begun).resolve_right fun fresh => done ?_
  rw [Store.isPending_iff]
  exact (Store.progress_listen ..).trans fresh

theorem begun_asked (it : Value) (s : Store) : s.begun (s.asked it) = [s.futures.size] :=
  Store.begun_newTask s.coroutines.size none ((Store.newCoroutine (.nextItem it)).run s).2

theorem grows_asked (it : Value) (s : Store) : s.Grows (s.asked it) :=
  (Store.spares_newCoroutine ..).trans (Store.spares_newTask ..)

theorem begun_requested (it : Value) (s : Store) (stream w : Nat) :
    s.begun ((s.asked it).heard stream w) = [s.futures.size] := by
  rw [(still_heard ..).begun_after (grows_asked ..), begun_asked]

/-- The next request is taken down for the active source. -/
theorem assign_requested (it : Value) (split : accepted = taken ++ e :: st.coming) {stream n : Nat} :
    assign accepted (st.launched size n).pending (s.begun ((s.asked it).heard stream w)) =
      taken ++ { e with work := e.work ++ [s.futures.size] } :: st.coming := by
  have coming : (st.launched size n).coming = st.coming := rfl
  rw [begun_requested, pending_eq, coming, split, assign_append]

theorem Serves.reaches {r : Except Fault Advance} (h : Serves id size st s r st' s')
    (phase : st.phase = .idle) (iterator : st.iterator = none) (inflight : st.inflight = none)
    (linked : st.Linked closing) (split : accepted = taken ++ st.coming)
    (slots : slotsOf taken = done) :
    Reaches closing (assign accepted st'.pending (s.begun s')) done (r.map Advance.chunk?) st' s' := by
  have place : Place closing accepted st done := .idle phase iterator linked split slots
  have rest : slotsOf accepted = done ++ slotsOf st.coming := by rw [split, slotsOf_append, slots]
  cases h with
  | empty =>
    rw [assign_still (.refl s)]
    exact .stay (.idle phase iterator ⟨linked.closed, linked.fault⟩ split slots) nofun
  | ended queue closed closeFault =>
    rw [assign_still (Store.still_woken ..)]
    have plainly : closing = some none := by
      rw [linked.closed] at closed
      rw [linked.fault] at closeFault
      obtain ⟨f, rfl⟩ := Option.isSome_iff_exists.mp closed
      exact congrArg some closeFault
    have served : slotsOf st.coming = [] := by
      unfold ChunkStream.coming
      rw [queue]
      rfl
    exact .stay (.ended rfl closed plainly (by rw [rest, served, List.append_nil])) nofun
  | closeFault queue closed closeFault fails =>
    rw [assign_still fails.still]
    exact .stay (place.fails fails) nofun
  | @literal source sources queue kind =>
    rw [assign_still (.refl s)]
    have only : Accepted.slots { source := source } = [.ready source.value] := by simp [Accepted.slots, kind]
    have split' : accepted = taken ++ [{ source := source }] ++
        sources.map fun source => { source := source } := by
      rw [split, ChunkStream.coming, queue, List.append_assoc]
      rfl
    refine ⟨[.ready source.value], .idle phase iterator ⟨linked.closed, linked.fault⟩ split' ?_, ?_,
      source.value, rfl, rfl⟩
    · rw [slotsOf_append, slots, slotsOf_cons, only]
      rfl
    · intro slot hs
      rw [List.mem_singleton.mp hs]
      trivial
  | @awaiting source sources w s₁ queue kind begun pending =>
    have apart : Apart id [] s s₁ := .startAwaiting begun
    rw [(still_heard s₁ id w).begun_after apart.spares.grows, assign_coming queue split rfl]
    refine .stay (.awaiting rfl rfl rfl (.inl kind) ⟨linked.closed, linked.fault⟩ rfl ?_) nofun
    rw [slots, Accepted.slots_startAwaiting kind begun]
  | @settled source sources w s₁ r _ _ queue kind begun pending settles =>
    obtain rfl := startAwaiting_of_settled begun pending
    have still := (still_heard s₁ id w).trans ((Store.still_unheard ..).trans settles.still)
    have only := Accepted.slots_startAwaiting kind begun
    rw [Store.begun_of_size rfl] at only
    rw [assign_still still]
    rw [map_chunk_chunk?]
    have split' : accepted =
        taken ++ { source } :: ((st.activated source sources).launched size w).coming := by
      rw [split, ChunkStream.coming, queue]
      rfl
    refine settles.reaches (e := { source }) rfl (.inl kind) rfl ⟨linked.closed, linked.fault⟩
      split' ?_ (Store.progress_unheard ..)
    rw [slots, only]
  | @requesting source sources iterator queue kind iterates =>
    rw [begun_requested, assign_coming queue split rfl]
    refine .stay (.awaiting rfl rfl rfl (.inr ⟨kind, Option.some_ne_none iterator⟩)
      ⟨linked.closed, linked.fault⟩ rfl ?_) nofun
    have only : Accepted.slots { source, work := [s.futures.size] } =
        [.awaited source.kind s.futures.size] := by simp [Accepted.slots, kind]
    rw [slots, only]
  | unusable queue kind iterates ordinary fails =>
    rw [assign_still fails.still]
    exact .stay (.past (fails.stopped rfl) rest) nofun
  | escaping =>
    rw [assign_still (.refl s)]
    exact .stay (.past (.inr ⟨rfl, inflight, iterator⟩) rest) nofun

/-! ### How far a pull comes -/

theorem Place.of_idle (h : Place closing accepted st done) (phase : st.phase = .idle) :
    ∃ taken, st.iterator = none ∧ st.Linked closing ∧ accepted = taken ++ st.coming ∧
      slotsOf taken = done := by
  cases h with
  | idle _ iterator linked split slots => exact ⟨_, iterator, linked, split, slots⟩
  | ended other | between other | awaiting other => exact nomatch phase.symm.trans other
  | past stopped =>
    rcases stopped with other | ⟨other, -⟩
    · exact nomatch phase.symm.trans other
    · exact nomatch phase.symm.trans other

theorem Place.of_ended (h : Place closing accepted st done) (phase : st.phase = .ended) :
    closing = some none ∧ slotsOf accepted = done := by
  cases h with
  | ended _ _ plainly slots => exact ⟨plainly, slots⟩
  | idle other | between other | awaiting other => exact nomatch phase.symm.trans other
  | past stopped =>
    rcases stopped with other | ⟨other, -⟩
    · exact nomatch phase.symm.trans other
    · exact nomatch phase.symm.trans other

theorem Place.of_between (h : Place closing accepted st done) (phase : st.phase = .draining)
    (inflight : st.inflight = none) (iterator : st.iterator ≠ none) :
    ∃ taken e, st.active = some e.source ∧ e.source.kind = .substream ∧ st.Linked closing ∧
      accepted = taken ++ e :: st.coming ∧ slotsOf taken ++ e.slots = done := by
  cases h with
  | between _ _ _ active kind linked split slots => exact ⟨_, _, active, kind, linked, split, slots⟩
  | awaiting _ some => exact nomatch inflight.symm.trans some
  | idle other | ended other => exact nomatch phase.symm.trans other
  | past stopped =>
    rcases stopped with other | ⟨-, -, none⟩
    · exact nomatch phase.symm.trans other
    · exact absurd none iterator

theorem Place.of_inflight (h : Place closing accepted st done) (phase : st.phase = .draining)
    (inflight : st.inflight = some w) :
    ∃ taken e, st.active = some e.source ∧
      (e.source.kind = .deferred ∨ e.source.kind = .substream ∧ st.iterator ≠ none) ∧
      st.Linked closing ∧ accepted = taken ++ e :: st.coming ∧
      slotsOf taken ++ e.slots = done ++ [.awaited e.source.kind w] := by
  cases h with
  | @awaiting taken e w' _ some active kind linked split slots =>
    cases inflight.symm.trans some
    exact ⟨taken, e, active, kind, linked, split, slots⟩
  | between _ none => exact nomatch inflight.symm.trans none
  | idle other | ended other => exact nomatch phase.symm.trans other
  | past stopped =>
    rcases stopped with other | ⟨-, none, -⟩
    · exact nomatch phase.symm.trans other
    · exact nomatch inflight.symm.trans none

/-- An advance moves the place of a stream by slots that bring what it brings. -/
theorem Advances.reaches {r : Except Fault Advance} (h : Advances id size st s r st' s')
    (place : Place closing accepted st done) (calm : st.Calm) (waiter : st.waiter = none) :
    Reaches closing (assign accepted st'.pending (s.begun s')) done (r.map Advance.chunk?) st' s' := by
  cases h with
  | errored | past | adrift =>
    rw [assign_still (.refl s)]
    exact .stay place nofun
  | idle phase serves =>
    obtain ⟨taken, iterator, linked, split, slots⟩ := place.of_idle phase
    exact serves.reaches phase iterator (calm phase) linked split slots
  | @requesting it phase inflight iterator =>
    have some : st.iterator ≠ none := iterator ▸ Option.some_ne_none it
    obtain ⟨taken, e, active, kind, linked, split, slots⟩ := place.of_between phase inflight some
    rw [assign_requested it split]
    refine .stay (.awaiting (e := { e with work := e.work ++ [s.futures.size] }) phase rfl active
      (.inr ⟨kind, some⟩) ⟨linked.closed, linked.fault⟩ rfl ?_) nofun
    rw [Accepted.slots_work kind, ← List.append_assoc, slots]
  | pending phase inflight =>
    rw [assign_still (.refl s)]
    obtain ⟨taken, e, active, kind, linked, split, slots⟩ := place.of_inflight phase inflight
    exact .stay (.awaiting phase rfl active kind ⟨linked.closed, linked.fault⟩ split slots) nofun
  | orphaned phase inflight pending active =>
    obtain ⟨taken, e, some, -⟩ := place.of_inflight phase inflight
    exact nomatch active.symm.trans some
  | @settled w source r _ _ phase inflight pending active settles =>
    obtain ⟨taken, e, some, kind, linked, split, slots⟩ := place.of_inflight phase inflight
    cases active.symm.trans some
    rw [assign_still ((Store.still_unheard ..).trans settles.still)]
    rw [map_chunk_chunk?]
    exact settles.reaches phase kind active linked split slots (Store.progress_unheard ..)
  | @passed w source _ _ r _ _ phase inflight pending active settles serves =>
    obtain ⟨taken, e, some, kind, linked, split, slots⟩ := place.of_inflight phase inflight
    cases active.symm.trans some
    obtain ⟨new, released, past, brings⟩ :=
      settles.reaches phase kind active linked split slots (Store.progress_unheard ..)
    obtain ⟨rfl, rfl, -⟩ := settles.of_none
    obtain ⟨taken', iterator', linked', split', slots'⟩ := released.of_idle rfl
    -- The source that is exhausted has yielded nothing more; the next one goes on from there.
    have grows := yields_grows past (serves.apart waiter).spares.grows
    have reached := serves.reaches rfl iterator' rfl linked' split' slots'
    rw [Store.begun_congr (Store.still_unheard s id (Option.some w)).size] at reached
    obtain ⟨new', place', past', brings'⟩ := reached
    refine ⟨new ++ new', by rwa [← List.append_assoc], fun slot hs => ?_, ?_⟩
    · rcases List.mem_append.mp hs with first | second
      · exact grows.1 slot first
      · exact past' slot second
    · have nothing : new.flatMap (·.yield (s.unheard id (Option.some w))) = [] := brings
      rwa [List.flatMap_append, grows.2, nothing, List.nil_append]

/-- An advance leaves a stream that has ended as it is. -/
theorem Advances.of_ended {r : Except Fault Advance} (h : Advances id size st s r st' s')
    (phase : st.phase = .ended) : st'.phase = .ended := by
  cases h with
  | past => exact phase
  | errored other | idle other | adrift other | requesting other | pending other | orphaned other
  | settled other | passed other => exact nomatch phase.symm.trans other

/-- A pull is told of the end by a stream that has ended. -/
theorem Advances.ended (h : Advances id size st s (.ok .ended) st' s') : st'.phase = .ended := by
  have serves {st st' : ChunkStream} {s s' : Store} (h : Serves id size st s (.ok .ended) st' s') :
      st'.phase = .ended := by
    generalize hr : (.ok .ended : Except Fault Advance) = r at h
    cases h with
    | ended => rfl
    | @settled _ _ _ _ r => cases r <;> cases hr
    | empty | closeFault | literal | awaiting | requesting | unusable | escaping => cases hr
  generalize hr : (.ok .ended : Except Fault Advance) = r at h
  cases h with
  | past phase => exact phase
  | idle _ h =>
    subst hr
    exact serves h
  | passed _ _ _ _ _ h =>
    subst hr
    exact serves h
  | @settled _ _ r => cases r <;> cases hr
  | errored | adrift | requesting | pending | orphaned => cases hr

end

end StreamTemplate.ChunkStream
