import StreamTemplate.Proofs.Stream.Advance

/-!
# What a stream asks of its surroundings

Some of what a stream asks of its surroundings makes a source work: awaiting a value, going through
an iterable, asking an iterator for its next item. Surroundings can take down these requests
(`Surroundings.noting`). A stream in them does what it does without (`Mirrors`), and makes requests
in `advance` only, which are those in `ChunkStream.wanted`.
-/

namespace StreamTemplate

/-- A request to a source. -/
inductive Request where
  /-- To begin to await a value. -/
  | start (v : Value)
  /-- To go through an iterable. -/
  | iterate (v : Value)
  /-- For the next item of an iterator. -/
  | item (iterator : Value)

/-- The requests that a source gets when it becomes the active one. -/
def Source.requests (heap : Heap) (source : Source) : List Request :=
  match source.kind with
  | .literal => []
  | .deferred => [.start source.value]
  | .substream =>
    match Store.iterator heap source.value Store.notAsyncIterator with
    | .ok iterator => [.iterate source.value, .item iterator]
    | .error _ => [.iterate source.value]

/-- Surroundings that take down the requests they get. -/
def Surroundings.noting {m : Type → Type} [Monad m] (host : Surroundings m) :
    Surroundings (StateT (List Request) m) where
  start v := do
    modify (· ++ [.start v])
    host.start v
  iterate v := do
    modify (· ++ [.iterate v])
    host.iterate v
  request v := do
    modify (· ++ [.item v])
    host.request v
  progress id := host.progress id
  listen id := host.listen id
  ignore id := host.ignore id
  wake id := host.wake id
  dispose v := host.dispose v
  normalize v := host.normalize v

namespace StreamM

variable {α β : Type}

/-- An operation on a stream in surroundings that take down requests. -/
abbrev Noted (α : Type) :=
  StreamM (StateT (List Request) (StateM Store)) α

/-- The requests that an operation on a stream makes in the event loop. -/
def requests (op : Noted α) (st : ChunkStream) (s : Store) : List Request :=
  (((op.run.run st).run []).run s).1.2

/-- An operation does what another does in surroundings that take nothing down, and makes some
requests. -/
def Mirrors (x : Noted α) (y : StreamM (StateM Store) α) (st : ChunkStream) (s : Store)
    (new : List Request) : Prop :=
  ∀ old, ((x.run.run st).run old).run s =
    ((((y.does st s).1, (y.does st s).2.1), old ++ new), (y.does st s).2.2)

/-- An operation does what another does, and makes no requests. -/
def Silent (x : Noted α) (y : StreamM (StateM Store) α) : Prop :=
  ∀ st s, Mirrors x y st s []

section

variable {x : Noted α} {y : StreamM (StateM Store) α} {f : α → Noted β}
  {g : α → StreamM (StateM Store) β} {st st' : ChunkStream} {s s' : Store} {new new' : List Request}

theorem Mirrors.requests_eq (h : Mirrors x y st s new) : requests x st s = new := by
  unfold requests
  rw [h []]
  rfl

/-- What follows a result makes its requests behind those before. -/
theorem Mirrors.bind_ok {a : α} (h : Mirrors x y st s new) (does : y.does st s = (.ok a, st', s'))
    (rest : Mirrors (f a) (g a) st' s' new') : Mirrors (x >>= f) (y >>= g) st s (new ++ new') := by
  intro old
  have first := h old
  rw [does] at first
  simp only [ExceptT.run_bind, StateT.run_bind, first, does_bind, does, andThen_ok]
  show ((f a).run.run st' |>.run (old ++ new)).run s' = _
  rw [rest (old ++ new), List.append_assoc]

/-- Nothing follows a fault. -/
theorem Mirrors.bind_error {e : Fault} (h : Mirrors x y st s new)
    (does : y.does st s = (.error e, st', s')) : Mirrors (x >>= f) (y >>= g) st s new := by
  intro old
  have first := h old
  rw [does] at first
  simp only [ExceptT.run_bind, StateT.run_bind, first, does_bind, does, andThen_error]
  rfl

/-- The requests of what follows an operation without any. -/
theorem Silent.bind_ok {a : α} (h : Silent x y) (does : y.does st s = (.ok a, st', s'))
    (rest : Mirrors (f a) (g a) st' s' new) : Mirrors (x >>= f) (y >>= g) st s new :=
  (h st s).bind_ok does rest

/-- What makes no requests can follow a result. -/
theorem Mirrors.bind_ok_silent {a : α} (h : Mirrors x y st s new)
    (does : y.does st s = (.ok a, st', s')) (rest : Silent (f a) (g a)) :
    Mirrors (x >>= f) (y >>= g) st s new := by
  have both := h.bind_ok does (rest st' s')
  rwa [List.append_nil] at both

theorem Mirrors.bind_silent (h : Mirrors x y st s new) (rest : ∀ a, Silent (f a) (g a)) :
    Mirrors (x >>= f) (y >>= g) st s new := by
  obtain ⟨r, st', s', does⟩ : ∃ r st' s', y.does st s = (r, st', s') := ⟨_, _, _, rfl⟩
  cases r with
  | ok a => exact h.bind_ok_silent does (rest a)
  | error e => exact h.bind_error does

theorem Silent.bind (h : Silent x y) (rest : ∀ a, Silent (f a) (g a)) : Silent (x >>= f) (y >>= g) :=
  fun st s => (h st s).bind_silent rest

end

section

variable (a : α) (e : Fault) (h : ChunkStream → ChunkStream)

theorem mirrors_same {x : Noted α} {y : StreamM (StateM Store) α} (st : ChunkStream) (s : Store)
    (same : ∀ old, ((x.run.run st).run old).run s =
      ((((y.does st s).1, (y.does st s).2.1), old), (y.does st s).2.2)) :
    Mirrors x y st s [] := by
  intro old
  rw [List.append_nil]
  exact same old

theorem silent_pure : Silent (pure a) (pure a) :=
  fun st s => mirrors_same st s fun _ => rfl

theorem silent_throw : Silent (throw e : Noted α) (throw e) :=
  fun st s => mirrors_same st s fun _ => rfl

theorem silent_get : Silent get get :=
  fun st s => mirrors_same st s fun _ => rfl

theorem silent_modify : Silent (modify h) (modify h) :=
  fun st s => mirrors_same st s fun _ => rfl

theorem silent_outside (x : StateM Store α) :
    Silent (outside (liftM x : StateT (List Request) (StateM Store) α)) (outside x) :=
  fun st s => mirrors_same st s fun _ => rfl

theorem silent_outside? (x : StateM Store (Except Fault α)) :
    Silent (outside? (liftM x : StateT (List Request) (StateM Store) (Except Fault α)))
      (outside? x) :=
  fun st s => mirrors_same st s fun _ => rfl

end

end StreamM

namespace ChunkStream

open StreamM

/-! ### Operations that make no requests -/

section

variable (id : Nat)

theorem silent_wake : Silent (wake (Store.surroundings id).noting) (wake (Store.surroundings id)) := by
  refine silent_get.bind fun st => ?_
  cases st.waiter with
  | none => exact silent_pure _
  | some w => exact silent_outside _

theorem silent_disposeAll (vs : List Value) :
    Silent (disposeAll (Store.surroundings id).noting vs) (disposeAll (Store.surroundings id) vs) := by
  induction vs with
  | nil => exact silent_pure _
  | cons v vs ih => exact (silent_outside? _).bind fun () => ih

theorem silent_fail (fault : Fault) :
    Silent (fail (Store.surroundings id).noting fault) (fail (Store.surroundings id) fault) := by
  have rest : Silent (do
        modify fun s => { s with inflight := none, active := none, iterator := none }
        disposeAll (Store.surroundings id).noting ((← get).queue.toList.map (·.value))
        modify fun s => { s with queue := {}, closed := true, fault := some fault, phase := .errored }
        wake (Store.surroundings id).noting) (do
        modify fun s => { s with inflight := none, active := none, iterator := none }
        disposeAll (Store.surroundings id) ((← get).queue.toList.map (·.value))
        modify fun s => { s with queue := {}, closed := true, fault := some fault, phase := .errored }
        wake (Store.surroundings id)) :=
    (silent_modify _).bind fun () => silent_get.bind fun _ => (silent_disposeAll id _).bind fun () =>
      (silent_modify _).bind fun () => silent_wake id
  refine silent_get.bind fun st => ?_
  cases st.inflight with
  | none => exact rest
  | some w => exact (silent_outside _).bind fun _ => rest

theorem silent_failWith {α : Type} (fault : Fault) :
    Silent (failWith (Store.surroundings id).noting fault : Noted α)
      (failWith (Store.surroundings id) fault) :=
  (silent_fail id fault).bind fun () => silent_throw fault

theorem silent_push (members : List Value) :
    Silent (push (Store.surroundings id).noting members) (push (Store.surroundings id) members) := by
  refine silent_get.bind fun st => ?_
  split
  · exact silent_disposeAll id members
  · rcases flatten members with fault | _ | _
    · exact silent_throw fault
    · exact silent_pure _
    · exact (silent_modify _).bind fun () => silent_wake id

theorem silent_close (fault : Option Fault) :
    Silent (close (Store.surroundings id).noting fault) (close (Store.surroundings id) fault) := by
  refine silent_get.bind fun st => ?_
  cases st.closed with
  | true => exact silent_pure _
  | false => exact (silent_modify _).bind fun () => silent_wake id

theorem silent_abort (fault : Option Fault) :
    Silent (abort (Store.surroundings id).noting fault) (abort (Store.surroundings id) fault) := by
  refine silent_get.bind fun st => ?_
  cases st.phase with
  | idle | draining => exact silent_fail id _
  | ended | errored => exact silent_pure _

theorem silent_noticed (w : Nat) :
    Silent (noticed (Store.surroundings id).noting w) (noticed (Store.surroundings id) w) := by
  refine silent_get.bind fun st => ?_
  by_cases own : st.inflight = some w
  · simp only [if_pos own]
    exact silent_wake id
  · simp only [if_neg own]
    exact silent_pure _

theorem silent_emit (v : Value) :
    Silent (emit (Store.surroundings id).noting v) (emit (Store.surroundings id) v) := by
  unfold emit
  cases v.isEmission with
  | true => exact (silent_outside _).bind fun _ => silent_pure _
  | false => exact silent_failWith id _

theorem silent_finish :
    Silent (finish (Store.surroundings id).noting) (finish (Store.surroundings id)) := by
  refine silent_get.bind fun st => ?_
  cases st.closeFault with
  | some fault => exact silent_failWith id fault
  | none =>
    exact (silent_modify _).bind fun () => (silent_wake id).bind fun () => silent_pure Advance.ended

theorem silent_takeIn (source : Source) (p : Progress) :
    Silent (takeIn (Store.surroundings id).noting source p)
      (takeIn (Store.surroundings id) source p) := by
  have released {α : Type} {x : Noted α} {y : StreamM (StateM Store) α} (rest : Silent x y) :
      Silent (release >>= fun _ => x) (release >>= fun _ => y) :=
    (silent_modify _).bind fun _ => rest
  cases p with
  | pending => exact silent_pure _
  | cancelled | failed => exact silent_failWith id _
  | finished v =>
    by_cases kind : source.kind = .deferred
    · simp only [takeIn, if_pos kind]
      exact released (silent_emit id v)
    · simp only [takeIn, if_neg kind]
      split
      · exact silent_emit id _
      · exact released (silent_pure _)

theorem silent_settle (w : Nat) (p : Progress) :
    Silent (settle (Store.surroundings id).noting w p) (settle (Store.surroundings id) w p) := by
  refine (silent_outside _).bind fun () => (silent_modify _).bind fun () => silent_get.bind fun st => ?_
  cases st.active with
  | none => exact silent_throw _
  | some source => exact silent_takeIn id source p

end

/-! ### What an advance asks for -/

/-- What an idle stream asks for: what its next source gets. -/
def nextRequests (st : ChunkStream) (heap : Heap) : List Request :=
  st.queue.toList.head?.elim [] (·.requests heap)

/-- What an advance may ask for: nothing; an item of the active source if nothing is in flight; what
the next source gets if there is no active one, or the active one has turned out to be exhausted. -/
inductive Wants (st : ChunkStream) (s : Store) : List Request → Prop
  | nothing : Wants st s []
  | next (phase : st.phase = .idle) : Wants st s (st.nextRequests s.heap)
  | item {it} (phase : st.phase = .draining) (inflight : st.inflight = none)
      (iterator : st.iterator = some it) : Wants st s [.item it]
  | passed {w source v} (phase : st.phase = .draining) (inflight : st.inflight = some w)
      (active : st.active = some source) (kind : source.kind ≠ .deferred)
      (finished : s.progress w = .finished v) (last : ∀ tuple u, v ≠ .tuple tuple [.bool false, u]) :
      Wants st s (st.nextRequests s.heap)

section

variable (id : Nat) (size : Option Int) (st : ChunkStream) (s : Store)

theorem mirrors_request (it : Value) :
    Mirrors (outside ((Store.surroundings id).noting.request it))
      (outside ((Store.surroundings id).request it)) st s [.item it] :=
  fun _ => rfl

theorem silent_listen (w : Nat) :
    Silent (listen (Store.surroundings id).noting w) (listen (Store.surroundings id) w) :=
  (silent_modify _).bind fun () => silent_outside _

theorem silent_drained (w : Nat) :
    Silent (do
        match ← StreamM.outside ((Store.surroundings id).noting.progress w) with
        | .pending =>
          modify fun s => { s with demand := size }
          return some .wait
        | progress => return (← settle (Store.surroundings id).noting w progress).map .chunk)
      (do
        match ← StreamM.outside ((Store.surroundings id).progress w) with
        | .pending =>
          modify fun s => { s with demand := size }
          return some Advance.wait
        | progress => return (← settle (Store.surroundings id) w progress).map .chunk) := by
  refine (silent_outside _).bind fun p => ?_
  cases p with
  | pending => exact (silent_modify _).bind fun () => silent_pure _
  | finished | failed | cancelled => exact (silent_settle id w _).bind fun _ => silent_pure _

/-- Work that is in flight is not asked for again. -/
theorem mirrors_drain_inflight {w : Nat} (inflight : st.inflight = some w) :
    Mirrors (drain (Store.surroundings id).noting size) (drain (Store.surroundings id) size) st s
      [] := by
  have same : Mirrors (inflightWork (Store.surroundings id).noting)
      (inflightWork (Store.surroundings id)) st s [] := by
    refine silent_get.bind_ok rfl ?_
    rw [inflight]
    exact silent_pure w _ _
  exact same.bind_silent (silent_drained id size)

theorem mirrors_drain_adrift (inflight : st.inflight = none) (iterator : st.iterator = none) :
    Mirrors (drain (Store.surroundings id).noting size) (drain (Store.surroundings id) size) st s
      [] := by
  have same : Mirrors (inflightWork (Store.surroundings id).noting)
      (inflightWork (Store.surroundings id)) st s [] := by
    refine silent_get.bind_ok rfl ?_
    rw [inflight]
    refine silent_get.bind_ok rfl ?_
    rw [iterator]
    exact silent_throw broken _ _
  exact same.bind_silent (silent_drained id size)

theorem mirrors_drain {it : Value} (inflight : st.inflight = none) (iterator : st.iterator = some it) :
    Mirrors (drain (Store.surroundings id).noting size) (drain (Store.surroundings id) size) st s
      [.item it] := by
  have asks : Mirrors (inflightWork (Store.surroundings id).noting)
      (inflightWork (Store.surroundings id)) st s [.item it] := by
    refine silent_get.bind_ok rfl ?_
    rw [inflight]
    refine silent_get.bind_ok rfl ?_
    rw [iterator]
    exact (mirrors_request id _ _ it).bind_silent fun w =>
      (silent_listen id w).bind fun () => silent_pure w
  exact asks.bind_silent (silent_drained id size)

/-- A stream that goes on with its queue drops its source, which is exhausted. -/
theorem exhausted_of_drain {w : Nat} {st' : ChunkStream} {s' : Store} (inflight : st.inflight = some w)
    (does : (drain (Store.surroundings id) size).does st s = (.ok none, st', s')) :
    st' = st.landed.released ∧ s'.heap = s.heap ∧ ∃ source v, st.active = some source ∧
      source.kind ≠ .deferred ∧ s.progress w = .finished v ∧
      ∀ tuple u, v ≠ .tuple tuple [.bool false, u] := by
  rw [does_drain, inflight] at does
  simp only at does
  split at does
  · cases does
  · next pending =>
    rw [does_settle] at does
    rcases active : st.active with _ | source
    · rw [active] at does
      cases does
    · rw [active] at does
      simp only at does
      generalize taken : (takeIn (Store.surroundings id) source (s.progress w)).does st.landed
        (s.unheard id (some w)) = p at does
      obtain ⟨r₁, st₁, s₁⟩ := p
      have settles := settles_of_does _ _ _ ((Store.not_isPending_iff _ _).mp pending) taken
      rcases r₁ with e | _ | v
      · cases does
      · cases does
        obtain ⟨rfl, rfl, kind, v, finished, last⟩ := settles.of_none
        exact ⟨rfl, rfl, source, v, rfl, kind, finished, last⟩
      · cases does

/-- Becoming the active source is one request. -/
theorem mirrors_activate (source : Source) :
    Mirrors (activate (Store.surroundings id).noting source)
      (activate (Store.surroundings id) source) st s
      [if source.kind = .deferred then .start source.value else .iterate source.value] := by
  have asks {α : Type} (x : StateM Store α) (request : Request) (st : ChunkStream) (s : Store) :
      Mirrors (outside do
        modify (· ++ [request])
        liftM x) (outside x) st s [request] := fun _ => rfl
  have fails (fault : Fault) : Silent
      (if fault.isOrdinary then failWith (Store.surroundings id).noting fault else throw fault :
        Noted Unit)
      (if fault.isOrdinary then failWith (Store.surroundings id) fault else throw fault) := by
    cases fault.isOrdinary with
    | true => exact silent_failWith id fault
    | false => exact silent_throw fault
  refine (silent_modify _).bind_ok rfl ?_
  by_cases kind : source.kind = .deferred
  · simp only [if_pos kind]
    refine (asks _ (.start source.value) _ _).bind_silent fun r => ?_
    cases r with
    | ok w => exact silent_listen id w
    | error fault => exact fails fault
  · simp only [if_neg kind]
    refine (asks _ (.iterate source.value) _ _).bind_silent fun r => ?_
    cases r with
    | ok it => exact silent_modify _
    | error fault => exact fails fault

section

variable {f : Option Advance → Noted Advance} {g : Option Advance → StreamM (StateM Store) Advance}

/-- A deferred source that has been activated delivers, fails or has to be waited for. -/
theorem mirrors_awaited {w : Nat} {source : Source} (inflight : st.inflight = some w)
    (active : st.active = some source) (kind : source.kind = .deferred)
    (ends : ∀ result, Silent (f (some result)) (g (some result))) :
    Mirrors (drain (Store.surroundings id).noting size >>= f)
      (drain (Store.surroundings id) size >>= g) st s [] := by
  obtain ⟨r, st', s', does⟩ : ∃ r st' s', (drain (Store.surroundings id) size).does st s =
    (r, st', s') := ⟨_, _, _, rfl⟩
  have drained := mirrors_drain_inflight id size st s inflight
  rcases r with e | _ | result
  · exact drained.bind_error does
  · obtain ⟨-, -, _, _, some, other, -⟩ := exhausted_of_drain id size st s inflight does
    cases active.symm.trans some
    exact absurd kind other
  · exact drained.bind_ok_silent does (ends result)

/-- A source that is not a literal delivers, fails or has to be waited for once it is activated. -/
theorem mirrors_activated {source : Source} (literal : source.kind ≠ .literal)
    (inflight : st.inflight = none)
    (ends : ∀ result, Silent (f (some result)) (g (some result))) :
    Mirrors (do
        activate (Store.surroundings id).noting source
        drain (Store.surroundings id).noting size >>= f)
      (do
        activate (Store.surroundings id) source
        drain (Store.surroundings id) size >>= g) st s (source.requests s.heap) := by
  have activates := mirrors_activate id st s source
  have does := does_activate id st s source
  unfold Source.requests
  by_cases kind : source.kind = .deferred
  · rw [if_pos kind] at activates does
    rw [kind]
    exact activates.bind_ok does (mirrors_awaited id size _ _ rfl rfl kind ends)
  · have substream : source.kind = .substream := by
      cases hk : source.kind <;> simp_all
    rw [if_neg kind] at activates does
    rw [substream]
    rcases iterates : Store.iterator s.heap source.value Store.notAsyncIterator with fault | it
    · rw [iterates] at does
      obtain ⟨e, st', s', fails⟩ : ∃ e st' s',
          (activate (Store.surroundings id) source).does st s = (.error e, st', s') := by
        rw [does]
        simp only
        split
        · rw [does_failWith, does_fail]
          split <;> exact ⟨_, _, _, rfl⟩
        · exact ⟨_, _, _, rfl⟩
      exact activates.bind_error fails
    · rw [iterates] at does
      refine activates.bind_ok does ?_
      have drained : Mirrors (drain (Store.surroundings id).noting size)
          (drain (Store.surroundings id) size)
          { st with active := some source, phase := .draining, iterator := some it } s [.item it] :=
        mirrors_drain id size _ s inflight rfl
      exact drained.bind_ok (does_drain_request id size _ s inflight rfl) (ends .wait _ _)

end

/-- An idle stream activates the first source in its queue if that is not a literal. -/
theorem mirrors_next (sources : List Source) (inflight : st.inflight = none) :
    Mirrors (next (Store.surroundings id).noting size sources)
      (next (Store.surroundings id) size sources) st s
      (sources.head?.elim [] (·.requests s.heap)) := by
  rcases sources with _ | ⟨source, rest⟩
  · refine silent_get.bind_ok rfl ?_
    cases st.closed with
    | true => exact silent_finish id _ _
    | false => exact (silent_modify _).bind (fun () => silent_pure Advance.wait) _ _
  · refine (silent_modify _).bind_ok rfl ?_
    by_cases literal : source.kind = .literal
    · have none : source.requests s.heap = [] := by simp [Source.requests, literal]
      simp only [if_pos literal, List.head?_cons, Option.elim_some, none]
      exact (silent_outside _).bind (fun _ => silent_pure _) _ _
    · simp only [if_neg literal]
      exact mirrors_activated id size _ s literal inflight fun result => silent_pure result

/-- The requests of an advance are wanted ones. -/
theorem mirrors_advance (calm : st.Calm) :
    ∃ new, st.Wants s new ∧ Mirrors (advance (Store.surroundings id).noting size)
      (advance (Store.surroundings id) size) st s new := by
  rcases phase : st.phase with _ | _ | _ | _
  · refine ⟨st.nextRequests s.heap, .next phase, silent_get.bind_ok rfl ?_⟩
    rw [phase]
    exact silent_get.bind_ok rfl (mirrors_next id size st s _ (calm phase))
  · obtain ⟨r, st', s', does⟩ : ∃ r st' s', (drain (Store.surroundings id) size).does st s =
      (r, st', s') := ⟨_, _, _, rfl⟩
    -- What is asked for depends on what is in flight; the queue is gone on with if that is all.
    have ends {new : List Request} (drained : Mirrors (drain (Store.surroundings id).noting size)
        (drain (Store.surroundings id) size) st s new) (some : r ≠ .ok none) :
        Mirrors (advance (Store.surroundings id).noting size)
          (advance (Store.surroundings id) size) st s new := by
      refine silent_get.bind_ok rfl ?_
      rw [phase]
      rcases r with e | _ | result
      · exact drained.bind_error does
      · exact absurd rfl some
      · exact drained.bind_ok_silent does (silent_pure result)
    rcases inflight : st.inflight with _ | w
    · rw [does_drain, inflight] at does
      rcases iterator : st.iterator with _ | it
      · rw [iterator] at does
        cases does
        exact ⟨[], .nothing, ends (mirrors_drain_adrift id size st s inflight iterator) nofun⟩
      · rw [iterator] at does
        cases does
        exact ⟨_, .item phase inflight iterator,
          ends (mirrors_drain id size st s inflight iterator) nofun⟩
    · have drained := mirrors_drain_inflight id size st s inflight
      by_cases passed : r = .ok none
      · subst passed
        obtain ⟨rfl, heap, source, v, active, kind, finished, last⟩ :=
          exhausted_of_drain id size st s inflight does
        refine ⟨_, .passed phase inflight active kind finished last, silent_get.bind_ok rfl ?_⟩
        rw [phase]
        refine drained.bind_ok does (silent_get.bind_ok rfl ?_)
        have rest := mirrors_next id size st.landed.released s' st.queue.toList rfl
        rwa [heap] at rest
      · exact ⟨_, .nothing, ends drained passed⟩
  · refine ⟨[], .nothing, silent_get.bind_ok rfl ?_⟩
    rw [phase]
    exact silent_pure _ _ _
  · refine ⟨[], .nothing, silent_get.bind_ok rfl ?_⟩
    rw [phase]
    exact silent_get.bind (fun _ => silent_throw _) _ _

end

end ChunkStream

end StreamTemplate
