import StreamTemplate.Proofs.Stream.Effect

/-!
# How far a pull comes

A pull goes as far as it can without waiting. `Advances` lists all that can happen on the way, case
by case: what the settled work of the active source comes to (`Settles`), what becomes of a stream
that fails (`Fails`), and what an idle stream does about its queue (`Serves`). That it is complete is
`advances_of_does`; whatever holds of pulls is read off these cases.
-/

namespace StreamTemplate

namespace Store

/-- The store once a stream listens to work. -/
def heard (s : Store) (stream work : Nat) : Store :=
  ((listen work (.stream stream)).run s).2

/-- The store once an iterator is asked for its next item, by a new future. -/
def asked (s : Store) (iterator : Value) : Store :=
  ((do newTask (← newCoroutine (.nextItem iterator)) none : StateM Store Nat).run s).2

theorem isPending_asked (s : Store) (iterator : Value) (stream : Nat) :
    ((s.asked iterator).heard stream s.futures.size).isPending s.futures.size := by
  have size : (s.asked iterator).futures.size = s.futures.size + 1 := Array.size_push ..
  have fresh : (s.asked iterator).progress s.futures.size = .pending := by
    unfold progress
    show ((s.futures.push _)[s.futures.size]?.map _).getD _ = _
    rw [Array.getElem?_push_size]
    rfl
  have kept : Spares (fun _ => True) (fun _ => True) (fun _ => True) (s.asked iterator)
      ((s.asked iterator).heard stream s.futures.size) := spares_listen _ _ _
  rw [isPending_iff, kept.progress_task (by omega) trivial, fresh]

end Store

/-- What work of a kind of source yields for the output. -/
def SourceKind.yield : SourceKind → Progress → List Value
  | .deferred, .finished v => [v].filter (·.isEmission)
  | .substream, .finished (.tuple _ [.bool false, v]) => [v].filter (·.isEmission)
  | _, _ => []

namespace ChunkStream

/-- An idle stream has nothing in flight. -/
def Calm (st : ChunkStream) : Prop :=
  st.phase = .idle → st.inflight = none

/-- A stream that has let go of its source, which is exhausted. -/
def released (st : ChunkStream) : ChunkStream :=
  { st with active := none, iterator := none, phase := .idle }

/-- What becomes of a stream that fails: the fault that is raised, the stream and the store. -/
inductive Fails (id : Nat) (fault : Fault) (st : ChunkStream) (s : Store) :
    Fault → ChunkStream → Store → Prop where
  | through {s' : Store}
      (disposed : Store.disposal (st.queue.toList.map (·.value)) (s.unheard id st.inflight) =
        (.ok (), s')) :
      Fails id fault st s fault (st.failed fault) (s'.woken st.waiter)
  | cutShort {e : Fault} {s' : Store}
      (disposed : Store.disposal (st.queue.toList.map (·.value)) (s.unheard id st.inflight) =
        (.error e, s')) :
      Fails id fault st s e st.detached s'

/-- What the outcome of the work of a source comes to. -/
inductive Settles (id : Nat) (source : Source) (st : ChunkStream) (s : Store) :
    Progress → Except Fault (Option Value) → ChunkStream → Store → Prop where
  | cancelled {e st' s'}
      (fails : Fails id (.say .cancelled s!"{source.kind.label} chunk source was cancelled") st s
        e st' s') :
      Settles id source st s .cancelled (.error e) st' s'
  | failed {fault e st' s'} (fails : Fails id fault st s e st' s') :
      Settles id source st s (.failed fault) (.error e) st' s'
  | result {v} (kind : source.kind = .deferred) (emission : v.isEmission) :
      Settles id source st s (.finished v) (.ok (some (s.heap.normalize v))) st.released s
  | badResult {v e st' s'} (kind : source.kind = .deferred) (emission : ¬ v.isEmission)
      (fails : Fails id (.chunkType v.className false) st.released s e st' s') :
      Settles id source st s (.finished v) (.error e) st' s'
  | item {tuple v} (kind : source.kind ≠ .deferred) (emission : v.isEmission) :
      Settles id source st s (.finished (.tuple tuple [.bool false, v]))
        (.ok (some (s.heap.normalize v))) st s
  | badItem {tuple v e st' s'} (kind : source.kind ≠ .deferred) (emission : ¬ v.isEmission)
      (fails : Fails id (.chunkType v.className false) st s e st' s') :
      Settles id source st s (.finished (.tuple tuple [.bool false, v])) (.error e) st' s'
  | exhausted {v} (kind : source.kind ≠ .deferred)
      (item : ∀ tuple u, v ≠ .tuple tuple [.bool false, u]) :
      Settles id source st s (.finished v) (.ok none) st.released s

/-- Work of a deferred source is no reason to go on to the next one. -/
theorem Settles.ne_none {id : Nat} {source : Source} {st st' : ChunkStream} {s s' : Store}
    {p : Progress} {r : Except Fault (Option Value)} (h : Settles id source st s p r st' s')
    (kind : source.kind = .deferred) : r ≠ .ok none := by
  rintro rfl
  cases h
  contradiction

/-- A stream that goes on to the next source has let go of one that is exhausted. -/
theorem Settles.of_none {id : Nat} {source : Source} {st st' : ChunkStream} {s s' : Store}
    {p : Progress} (h : Settles id source st s p (.ok none) st' s') :
    st' = st.released ∧ s' = s ∧ source.kind ≠ .deferred ∧
      ∃ v, p = .finished v ∧ ∀ tuple u, v ≠ .tuple tuple [.bool false, u] := by
  cases h with
  | exhausted kind item => exact ⟨rfl, rfl, kind, _, rfl, item⟩

/-- The stream once it has taken the next source out of its queue and made it the active one. -/
def activated (st : ChunkStream) (source : Source) (rest : List Source) : ChunkStream :=
  { st with queue := .ofList rest, active := some source, phase := .draining }

/-- The stream once it takes in the work that was in flight. -/
def landed (st : ChunkStream) : ChunkStream :=
  { st with inflight := none }

/-- The stream once it waits for work. -/
def launched (st : ChunkStream) (size : Option Int) (w : Nat) : ChunkStream :=
  { st with inflight := some w, demand := size }

/-- What an idle stream comes to when it goes through its queue. -/
inductive Serves (id : Nat) (size : Option Int) (st : ChunkStream) (s : Store) :
    Except Fault Advance → ChunkStream → Store → Prop where
  | empty (queue : st.queue.toList = []) (closed : st.closed = false) :
      Serves id size st s (.ok .wait) { st with demand := size } s
  | ended (queue : st.queue.toList = []) (closed : st.closed = true)
      (closeFault : st.closeFault = none) :
      Serves id size st s (.ok .ended) { st with phase := .ended } (s.woken st.waiter)
  | closeFault {fault e st' s'} (queue : st.queue.toList = []) (closed : st.closed = true)
      (closeFault : st.closeFault = some fault) (fails : Fails id fault st s e st' s') :
      Serves id size st s (.error e) st' s'
  | literal {source rest} (queue : st.queue.toList = source :: rest)
      (kind : source.kind = .literal) :
      Serves id size st s (.ok (.chunk (s.heap.normalize source.value)))
        { st with queue := .ofList rest } s
  | awaiting {source rest w s'} (queue : st.queue.toList = source :: rest)
      (kind : source.kind = .deferred) (begun : (Store.startAwaiting source.value).run s = (w, s'))
      (pending : (s'.heard id w).isPending w) :
      Serves id size st s (.ok .wait) ((st.activated source rest).launched size w) (s'.heard id w)
  | settled {source rest w s'} {r : Except Fault Value} {st'' s''} (queue : st.queue.toList = source :: rest)
      (kind : source.kind = .deferred) (begun : (Store.startAwaiting source.value).run s = (w, s'))
      (pending : ¬ (s'.heard id w).isPending w)
      (settles : Settles id source (st.activated source rest).landed
        ((s'.heard id w).unheard id (some w)) ((s'.heard id w).progress w) (r.map some) st'' s'') :
      Serves id size st s (r.map .chunk) st'' s''
  | requesting {source rest iterator} (queue : st.queue.toList = source :: rest)
      (kind : source.kind = .substream)
      (iterates : Store.iterator s.heap source.value Store.notAsyncIterator = .ok iterator) :
      Serves id size st s (.ok .wait)
        ({ st.activated source rest with iterator := some iterator }.launched size s.futures.size)
        ((s.asked iterator).heard id s.futures.size)
  | unusable {source rest fault e st' s'} (queue : st.queue.toList = source :: rest)
      (kind : source.kind = .substream)
      (iterates : Store.iterator s.heap source.value Store.notAsyncIterator = .error fault)
      (ordinary : fault.isOrdinary) (fails : Fails id fault (st.activated source rest) s e st' s') :
      Serves id size st s (.error e) st' s'
  | escaping {source rest fault} (queue : st.queue.toList = source :: rest)
      (kind : source.kind = .substream)
      (iterates : Store.iterator s.heap source.value Store.notAsyncIterator = .error fault)
      (ordinary : ¬ fault.isOrdinary) :
      Serves id size st s (.error fault) (st.activated source rest) s

/-- How far a pull comes. -/
inductive Advances (id : Nat) (size : Option Int) (st : ChunkStream) (s : Store) :
    Except Fault Advance → ChunkStream → Store → Prop where
  | errored (phase : st.phase = .errored) :
      Advances id size st s (.error (st.fault.getD broken)) st s
  | past (phase : st.phase = .ended) : Advances id size st s (.ok .ended) st s
  | idle {r st' s'} (phase : st.phase = .idle) (serves : Serves id size st s r st' s') :
      Advances id size st s r st' s'
  | adrift (phase : st.phase = .draining) (inflight : st.inflight = none)
      (iterator : st.iterator = none) :
      Advances id size st s (.error broken) st s
  | requesting {it} (phase : st.phase = .draining) (inflight : st.inflight = none)
      (iterator : st.iterator = some it) :
      Advances id size st s (.ok .wait) (st.launched size s.futures.size)
        ((s.asked it).heard id s.futures.size)
  | pending {w} (phase : st.phase = .draining) (inflight : st.inflight = some w)
      (pending : s.isPending w) :
      Advances id size st s (.ok .wait) (st.launched size w) s
  | orphaned {w} (phase : st.phase = .draining) (inflight : st.inflight = some w)
      (pending : ¬ s.isPending w) (active : st.active = none) :
      Advances id size st s (.error broken) st.landed (s.unheard id (some w))
  | settled {w source} {r : Except Fault Value} {st' s'} (phase : st.phase = .draining)
      (inflight : st.inflight = some w)
      (pending : ¬ s.isPending w) (active : st.active = some source)
      (settles : Settles id source st.landed (s.unheard id (some w)) (s.progress w) (r.map some)
        st' s') :
      Advances id size st s (r.map .chunk) st' s'
  | passed {w source st' s' r st'' s''} (phase : st.phase = .draining)
      (inflight : st.inflight = some w) (pending : ¬ s.isPending w)
      (active : st.active = some source)
      (settles : Settles id source st.landed (s.unheard id (some w)) (s.progress w) (.ok none)
        st' s')
      (serves : Serves id size st' s' r st'' s'') :
      Advances id size st s r st'' s''

section

variable (id : Nat) (size : Option Int) (st : ChunkStream) (s : Store)

theorem fails_of_does {α : Type} {fault : Fault} {r : Except Fault α} {st' : ChunkStream}
    {s' : Store}
    (h : (failWith (Store.surroundings id) fault : StreamM (StateM Store) α).does st s =
      (r, st', s')) :
    ∃ e, r = .error e ∧ Fails id fault st s e st' s' := by
  rw [does_failWith, does_fail] at h
  rcases disposed : Store.disposal (st.queue.toList.map (·.value)) (s.unheard id st.inflight) with
    ⟨_ | _, s''⟩
  · rw [disposed] at h
    cases h
    exact ⟨_, rfl, .cutShort disposed⟩
  · rw [disposed] at h
    cases h
    exact ⟨_, rfl, .through disposed⟩

theorem does_emit (v : Value) :
    (emit (Store.surroundings id) v).does st s =
      if v.isEmission then (.ok (some (s.heap.normalize v)), st, s)
      else (failWith (Store.surroundings id) (.chunkType v.className false)).does st s := by
  unfold emit
  split <;> rfl

theorem settles_of_does {source : Source} {p : Progress} {r : Except Fault (Option Value)}
    {st' : ChunkStream} {s' : Store} (pending : p ≠ .pending)
    (h : (takeIn (Store.surroundings id) source p).does st s = (r, st', s')) :
    Settles id source st s p r st' s' := by
  unfold takeIn at h
  split at h
  · exact absurd rfl pending
  · obtain ⟨e, rfl, fails⟩ := fails_of_does _ _ _ h
    exact .cancelled fails
  · obtain ⟨e, rfl, fails⟩ := fails_of_does _ _ _ h
    exact .failed fails
  · next v =>
    split at h
    · next kind =>
      rw [StreamM.does_bind] at h
      change (emit (Store.surroundings id) v).does st.released s = _ at h
      rw [does_emit] at h
      split at h
      · next emission =>
        cases h
        exact .result kind emission
      · next emission =>
        obtain ⟨e, rfl, fails⟩ := fails_of_does _ _ _ h
        exact .badResult kind emission fails
    · next kind =>
      split at h
      · next tuple item =>
        rw [does_emit] at h
        split at h
        · next emission =>
          cases h
          exact .item kind emission
        · next emission =>
          obtain ⟨e, rfl, fails⟩ := fails_of_does _ _ _ h
          exact .badItem kind emission fails
      · next item =>
        cases h
        exact .exhausted kind fun tuple u hv => item tuple u hv

theorem does_settle (w : Nat) (p : Progress) :
    (settle (Store.surroundings id) w p).does st s =
      match st.active with
      | none => (.error broken, st.landed, s.unheard id (some w))
      | some source =>
        (takeIn (Store.surroundings id) source p).does st.landed (s.unheard id (some w)) := by
  obtain ⟨_, _, _, _, _, active, _, _, _, _, _⟩ := st
  cases active <;> rfl

theorem does_listen (work : Nat) :
    (listen (Store.surroundings id) work).does st s =
      (.ok (), { st with inflight := some work }, s.heard id work) := rfl

theorem does_drain :
    (drain (Store.surroundings id) size).does st s =
      match st.inflight with
      | some w =>
        if s.isPending w then (.ok (some .wait), st.launched size w, s)
        else StreamM.andThen (fun v => pure (v.map .chunk))
          ((settle (Store.surroundings id) w (s.progress w)).does st s)
      | none =>
        match st.iterator with
        | none => (.error broken, st, s)
        | some it =>
          (.ok (some .wait), st.launched size s.futures.size,
            (s.asked it).heard id s.futures.size) := by
  unfold drain inflightWork
  obtain ⟨_, _, _, _, _, _, iterator, inflight, _, _, _⟩ := st
  cases inflight with
  | some w =>
    have looked : ((Store.surroundings id).progress w).run s = (s.progress w, s) := rfl
    simp only [StreamM.does_bind, StreamM.does_get, StreamM.andThen_ok, StreamM.does_pure,
      StreamM.does_outside, looked]
    by_cases pending : s.isPending w
    · rw [if_pos pending]
      simp only [(Store.isPending_iff s w).mp pending]
      rfl
    · rw [if_neg pending]
      split
      · next h => exact absurd h ((Store.not_isPending_iff s w).mp pending)
      · simp only [StreamM.does_bind]
  | none =>
    cases iterator with
    | none => rfl
    | some it =>
      have requested : ((Store.surroundings id).request it).run s = (s.futures.size, s.asked it) :=
        rfl
      have looked (s' : Store) : ((Store.surroundings id).progress s.futures.size).run s' =
        (s'.progress s.futures.size, s') := rfl
      have pending := (Store.isPending_iff _ _).mp (s.isPending_asked it id)
      simp only [StreamM.does_bind, StreamM.does_get, StreamM.andThen_ok, StreamM.does_pure,
        StreamM.does_outside, does_listen, requested, looked, pending]
      rfl

theorem does_drain_request {it : Value} (inflight : st.inflight = none)
    (iterator : st.iterator = some it) :
    (drain (Store.surroundings id) size).does st s =
      (.ok (some .wait), st.launched size s.futures.size,
        (s.asked it).heard id s.futures.size) := by
  rw [does_drain]
  simp only [inflight, iterator]

theorem does_activate (source : Source) :
    (activate (Store.surroundings id) source).does st s =
      if source.kind = .deferred then
        (.ok (), { st with
            active := some source
            phase := .draining
            inflight := some ((Store.startAwaiting source.value).run s).1 },
          ((Store.startAwaiting source.value).run s).2.heard id
            ((Store.startAwaiting source.value).run s).1)
      else
        match Store.iterator s.heap source.value Store.notAsyncIterator with
        | .ok it =>
          (.ok (), { st with active := some source, phase := .draining, iterator := some it }, s)
        | .error fault =>
          if fault.isOrdinary then
            (failWith (Store.surroundings id) fault : StreamM (StateM Store) Unit).does
              { st with active := some source, phase := .draining } s
          else (.error fault, { st with active := some source, phase := .draining }, s) := by
  have started : ((Store.surroundings id).start source.value).run s =
    (.ok ((Store.startAwaiting source.value).run s).1,
      ((Store.startAwaiting source.value).run s).2) := rfl
  have iterates : ((Store.surroundings id).iterate source.value).run s =
    (Store.iterator s.heap source.value Store.notAsyncIterator, s) := rfl
  unfold activate
  simp only [StreamM.does_bind, StreamM.does_modify, StreamM.andThen_ok]
  split
  · simp only [StreamM.does_bind, StreamM.does_outside, StreamM.andThen_ok, started]
    rfl
  · simp only [StreamM.does_bind, StreamM.does_outside, StreamM.andThen_ok, iterates]
    cases Store.iterator s.heap source.value Store.notAsyncIterator with
    | ok it => rfl
    | error fault =>
      cases ordinary : fault.isOrdinary <;> simp only [ordinary] <;> rfl

theorem serves_of_does {r : Except Fault Advance} {st' : ChunkStream} {s' : Store}
    (inflight : st.inflight = none)
    (h : (next (Store.surroundings id) size st.queue.toList).does st s = (r, st', s')) :
    Serves id size st s r st' s' := by
  rcases queue : st.queue.toList with _ | ⟨source, rest⟩
  · rw [queue] at h
    unfold next finish at h
    simp only [StreamM.does_bind, StreamM.does_get, StreamM.andThen_ok] at h
    split at h
    · next closed =>
      simp only [StreamM.does_bind, StreamM.does_get, StreamM.andThen_ok] at h
      split at h
      · next fault closeFault =>
        obtain ⟨e, rfl, fails⟩ := fails_of_does _ _ _ h
        exact .closeFault queue closed closeFault fails
      · next closeFault =>
        simp only [StreamM.does_bind, StreamM.does_modify, StreamM.andThen_ok, does_wake] at h
        cases h
        exact .ended queue closed closeFault
    · next closed =>
      cases h
      exact .empty queue (by simpa using closed)
  · rw [queue] at h
    unfold next at h
    simp only [StreamM.does_bind, StreamM.does_modify, StreamM.andThen_ok] at h
    split at h
    · next kind =>
      cases h
      exact .literal queue kind
    · next literal =>
      simp only [StreamM.does_bind, does_activate] at h
      by_cases kind : source.kind = .deferred
      · rw [if_pos kind, StreamM.andThen_ok] at h
        simp only [StreamM.does_bind, does_drain] at h
        generalize begun : (Store.startAwaiting source.value).run s = p at h
        obtain ⟨w, s₁⟩ := p
        split at h
        · next pending =>
          cases h
          exact .awaiting queue kind begun pending
        · next pending =>
          rw [does_settle] at h
          change StreamM.andThen _ (StreamM.andThen _
            ((takeIn (Store.surroundings id) source ((s₁.heard id w).progress w)).does
              (st.activated source rest).landed ((s₁.heard id w).unheard id (some w)))) = _ at h
          generalize taken : (takeIn (Store.surroundings id) source
            ((s₁.heard id w).progress w)).does (st.activated source rest).landed
            ((s₁.heard id w).unheard id (some w)) = p at h
          obtain ⟨r₁, st₁, s₂⟩ := p
          have settles := settles_of_does _ _ _ ((Store.not_isPending_iff _ _).mp pending) taken
          match r₁, settles with
          | .error e, settles =>
            cases h
            exact .settled (r := .error e) queue kind begun pending settles
          | .ok (some v), settles =>
            cases h
            exact .settled (r := .ok v) queue kind begun pending settles
          | .ok none, settles => exact absurd rfl (settles.ne_none kind)
      · rw [if_neg kind] at h
        have kind : source.kind = .substream := by
          cases hk : source.kind <;> simp_all
        split at h
        · next it iterates =>
          rw [StreamM.andThen_ok] at h
          have drained : (drain (Store.surroundings id) size).does
              { st with
                queue := .ofList rest, active := some source, phase := .draining
                iterator := some it } s = _ :=
            does_drain_request id size _ s inflight rfl
          rw [StreamM.does_bind, drained] at h
          cases h
          exact .requesting queue kind iterates
        · next fault iterates =>
          split at h
          · next ordinary =>
            generalize failed : (failWith (Store.surroundings id) fault :
              StreamM (StateM Store) Unit).does _ s = p at h
            obtain ⟨r₁, st₁, s₁⟩ := p
            obtain ⟨e, rfl, fails⟩ := fails_of_does _ _ _ failed
            cases h
            exact .unusable queue kind iterates ordinary fails
          · next ordinary =>
            cases h
            exact .escaping queue kind iterates ordinary

/-- `Advances` lists all that an advance can do. -/
theorem advances_of_does {r : Except Fault Advance} {st' : ChunkStream} {s' : Store}
    (calm : st.Calm)
    (h : (advance (Store.surroundings id) size).does st s = (r, st', s')) :
    Advances id size st s r st' s' := by
  unfold advance at h
  simp only [StreamM.does_bind, StreamM.does_get, StreamM.andThen_ok] at h
  rcases phase : st.phase with _ | _ | _ | _
  · simp only [phase] at h
    exact .idle phase (serves_of_does id size st s (calm phase) h)
  · simp only [phase, StreamM.does_bind, does_drain] at h
    rcases inflight : st.inflight with _ | w
    · simp only [inflight] at h
      rcases iterator : st.iterator with _ | it
      · simp only [iterator] at h
        cases h
        exact .adrift phase inflight iterator
      · simp only [iterator] at h
        cases h
        exact .requesting phase inflight iterator
    · simp only [inflight] at h
      by_cases pending : s.isPending w
      · rw [if_pos pending] at h
        cases h
        exact .pending phase inflight pending
      · rw [if_neg pending, does_settle] at h
        rcases active : st.active with _ | source
        · simp only [active] at h
          cases h
          exact .orphaned phase inflight pending active
        · simp only [active] at h
          generalize taken : (takeIn (Store.surroundings id) source (s.progress w)).does st.landed
            (s.unheard id (some w)) = p at h
          obtain ⟨r₁, st₁, s₁⟩ := p
          have settles := settles_of_does _ _ _ ((Store.not_isPending_iff _ _).mp pending) taken
          match r₁, settles with
          | .error e, settles =>
            cases h
            exact .settled (r := .error e) phase inflight pending active settles
          | .ok (some v), settles =>
            cases h
            exact .settled (r := .ok v) phase inflight pending active settles
          | .ok none, settles =>
            exact .passed phase inflight pending active settles
              (serves_of_does id size st₁ s₁ (by rw [settles.of_none.1]; rfl) h)
  · simp only [phase] at h
    cases h
    exact .past phase
  · simp only [phase] at h
    cases h
    exact .errored phase

end

/-- Where the work in flight is done, what it comes to is taken in, and the stream goes on if that is
nothing. -/
theorem Advances.of_done {id w : Nat} {size : Option Int} {st st' : ChunkStream} {s s' : Store}
    {source : Source} {r : Except Fault Advance} (h : Advances id size st s r st' s')
    (phase : st.phase = .draining) (inflight : st.inflight = some w) (done : ¬ s.isPending w)
    (active : st.active = some source) :
    (∃ r' : Except Fault Value, r = r'.map .chunk ∧ Settles id source st.landed
      (s.unheard id (some w)) (s.progress w) (r'.map some) st' s') ∨
    ∃ st₁ s₁, Settles id source st.landed (s.unheard id (some w)) (s.progress w) (.ok none) st₁ s₁ ∧
      Serves id size st₁ s₁ r st' s' := by
  cases h with
  | errored other | past other | idle other => cases phase.symm.trans other
  | adrift _ none | requesting _ none => cases none.symm.trans inflight
  | pending _ inflight' pending =>
    cases inflight'.symm.trans inflight
    exact absurd pending done
  | orphaned _ _ _ none => cases none.symm.trans active
  | settled _ inflight' _ active' settles =>
    cases inflight'.symm.trans inflight
    cases active'.symm.trans active
    exact .inl ⟨_, rfl, settles⟩
  | passed _ inflight' _ active' settles serves =>
    cases inflight'.symm.trans inflight
    cases active'.symm.trans active
    exact .inr ⟨_, _, settles, serves⟩

end ChunkStream

end StreamTemplate
