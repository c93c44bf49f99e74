import StreamTemplate.Proofs.Loop.Frame

/-!
# What operations on a stream do

In the event loop an operation on a stream has an outcome and leaves behind a stream and a store.
`StreamM.does` gives all three. Here is what the operations come to that feed a stream, close it and
tear it down; getting chunks out of it is for another module.
-/

namespace StreamTemplate

namespace StreamM

variable {α β : Type}

/-- The outcome of an operation on a stream in the event loop, and the stream and the store behind
it. -/
def does (op : StreamM (StateM Store) α) (st : ChunkStream) (s : Store) :
    Except Fault α × ChunkStream × Store :=
  let ((r, st), s) := (op.run.run st).run s
  (r, st, s)

/-- An operation that follows a result, unless that is a fault. -/
def andThen (f : α → StreamM (StateM Store) β) :
    Except Fault α × ChunkStream × Store → Except Fault β × ChunkStream × Store
  | (.ok a, st, s) => (f a).does st s
  | (.error e, st, s) => (.error e, st, s)

section

variable (st : ChunkStream) (s : Store)

@[simp]
theorem does_pure (a : α) : (pure a : StreamM (StateM Store) α).does st s = (.ok a, st, s) := rfl

@[simp]
theorem does_throw (e : Fault) :
    (throw e : StreamM (StateM Store) α).does st s = (.error e, st, s) := rfl

@[simp]
theorem does_get : (get : StreamM (StateM Store) ChunkStream).does st s = (.ok st, st, s) := rfl

@[simp]
theorem does_modify (f : ChunkStream → ChunkStream) :
    (modify f : StreamM (StateM Store) PUnit).does st s = (.ok ⟨⟩, f st, s) := rfl

@[simp]
theorem does_outside (x : StateM Store α) :
    (outside x).does st s = (.ok (x.run s).1, st, (x.run s).2) := rfl

@[simp]
theorem does_outside? (x : StateM Store (Except Fault α)) :
    (outside? x).does st s = ((x.run s).1, st, (x.run s).2) := rfl

@[simp]
theorem andThen_ok (f : α → StreamM (StateM Store) β) (a : α) :
    andThen f (.ok a, st, s) = (f a).does st s := rfl

@[simp]
theorem andThen_error (f : α → StreamM (StateM Store) β) (e : Fault) :
    andThen f (.error e, st, s) = (.error e, st, s) := rfl

@[simp]
theorem does_bind (x : StreamM (StateM Store) α) (f : α → StreamM (StateM Store) β) :
    (x >>= f).does st s = andThen f (x.does st s) := by
  show (x >>= f).does st s = andThen f (let p := (x.run.run st).run s; (p.1.1, p.1.2, p.2))
  simp only [does, ExceptT.run_bind, StateT.run_bind]
  obtain ⟨⟨r, st'⟩, s'⟩ := (x.run.run st).run s
  cases r <;> rfl

end

end StreamM

namespace Store

/-- The store once a pull that may wait for a future is woken. -/
def woken (s : Store) : Option Nat → Store
  | none => s
  | some w => if s.isPending w then s.completed w (.finished .none) else s

theorem woken_some (s : Store) (w : Nat) :
    s.woken (some w) = if s.isPending w then s.completed w (.finished .none) else s := rfl

theorem spares_woken {L : Listener → Prop} {T C : Nat → Prop} {waiter : Option Nat} (s : Store)
    (spared : ∀ w, waiter = some w → ¬ T w) : s.Spares L T C (s.woken waiter) := by
  cases waiter with
  | none => exact .refl s
  | some w =>
    rw [woken_some]
    split
    · next pending => exact spares_completed pending nofun (spared w rfl)
    · exact .refl s

theorem streams_woken (s : Store) (waiter : Option Nat) : (s.woken waiter).streams = s.streams := by
  cases waiter with
  | none => rfl
  | some w =>
    rw [woken_some]
    split
    · exact streams_completed ..
    · rfl

/-- A pull that is woken need not wait any more. -/
theorem not_isPending_woken (s : Store) (w : Nat) : ¬ (s.woken (some w)).isPending w := by
  rw [woken_some]
  split
  · next pending =>
    rw [not_isPending_iff, progress_completed (lt_size_of_isPending pending)]
    nofun
  · next done => exact done

/-- The store once a stream listens to no more work. -/
def unheard (s : Store) (stream : Nat) : Option Nat → Store
  | none => s
  | some w => ((ignore w (.stream stream)).run s).2

theorem progress_unheard (s : Store) (stream : Nat) (inflight : Option Nat) (w : Nat) :
    (s.unheard stream inflight).progress w = s.progress w := by
  cases inflight with
  | none => rfl
  | some f =>
    exact progress_modifyFuture
      (g := fun f => { f with listeners := f.listeners.filter (· ≠ .stream stream) })
      (fun _ => rfl) f w s

theorem still_woken (s : Store) (waiter : Option Nat) : s.Still (s.woken waiter) := by
  refine ⟨spares_woken s fun _ _ => not_false, ?_⟩
  cases waiter with
  | none => rfl
  | some w =>
    rw [woken_some]
    split
    · exact size_completed ..
    · rfl

theorem still_unheard (s : Store) (stream : Nat) (inflight : Option Nat) :
    s.Still (s.unheard stream inflight) := by
  cases inflight with
  | none => exact .refl s
  | some w => exact ⟨spares_ignore w _ s not_false, Array.size_modify⟩

/-- Closing the coroutines among values in order, up to one that is running. -/
def disposal : List Value → Store → Except Fault Unit × Store
  | [], s => (.ok (), s)
  | .process .coroutine id :: vs, s =>
    if s.coroutineState id = .running then (.error executing, s)
    else disposal vs (s.setCoroutine id .closed)
  | _ :: vs, s => disposal vs s

/-- Closing coroutines changes nothing but their states. -/
theorem disposal_eq (vs : List Value) (s : Store) :
    ∃ coroutines, (disposal vs s).2 = { s with coroutines } := by
  fun_induction disposal vs s with
  | case1 s => exact ⟨_, rfl⟩
  | case2 c vs s running => exact ⟨_, rfl⟩
  | case3 c vs s running ih => exact ih
  | case4 v vs s other ih => exact ih

theorem spares_disposal {L : Listener → Prop} {T C : Nat → Prop} (vs : List Value) (s : Store)
    (spared : ∀ c, .process .coroutine c ∈ vs → ¬ C c) : s.Spares L T C (disposal vs s).2 := by
  fun_induction disposal vs s with
  | case1 s => exact .refl s
  | case2 c vs s running => exact .refl s
  | case3 c vs s running ih =>
    have closed : s.Spares L T C (s.setCoroutine c .closed) :=
      spares_setCoroutine _ _ (spared c (List.mem_cons_self ..))
    exact closed.trans (ih fun c' hc => spared c' (List.mem_cons_of_mem _ hc))
  | case4 v vs s other ih => exact ih fun c' hc => spared c' (List.mem_cons_of_mem _ hc)

theorem still_disposal {vs : List Value} {s s' : Store} {r : Except Fault Unit}
    (disposed : disposal vs s = (r, s')) : s.Still s' := by
  have grows : s.Grows (disposal vs s).2 := spares_disposal vs s fun _ _ => not_false
  obtain ⟨coroutines, eq⟩ := disposal_eq vs s
  rw [disposed] at grows eq
  exact ⟨grows, congrArg (·.futures.size) eq⟩

end Store

namespace ChunkStream

/-- A stream that has let go of its active source. -/
def detached (st : ChunkStream) : ChunkStream :=
  { st with inflight := none, active := none, iterator := none }

/-- A stream that has failed. -/
def failed (st : ChunkStream) (fault : Fault) : ChunkStream :=
  { st.detached with queue := {}, closed := true, fault := some fault, phase := .errored }

section

variable (id : Nat) (st : ChunkStream) (s : Store)

theorem run_wake (w : Nat) : ((Store.surroundings id).wake w).run s = ((), s.woken (some w)) := by
  show StateT.run (bind get fun s' : Store => _) s = _
  simp only [StateT.run_bind, StateT.run_get, pure_bind, Store.woken]
  cases s.isPending w <;> rfl

theorem does_wake : (wake (Store.surroundings id)).does st s = (.ok (), st, s.woken st.waiter) := by
  unfold wake
  simp only [StreamM.does_bind, StreamM.does_get, StreamM.andThen_ok]
  cases st.waiter with
  | none => rfl
  | some w => simp only [StreamM.does_outside, run_wake]

theorem run_dispose_coroutine (c : Nat) :
    ((Store.surroundings id).dispose (.process .coroutine c)).run s =
      if s.coroutineState c = .running then (.error Store.executing, s)
      else (.ok (), s.setCoroutine c .closed) :=
  Store.run_closeCoroutine c s

theorem run_dispose_other {v : Value} (h : ∀ c, v ≠ .process .coroutine c) :
    ((Store.surroundings id).dispose v).run s = (.ok (), s) := by
  cases v with
  | process kind c =>
    cases kind with
    | coroutine => exact absurd rfl (h c)
    | _ => rfl
  | _ => rfl

theorem does_disposeAll (vs : List Value) :
    (disposeAll (Store.surroundings id) vs).does st s =
      ((Store.disposal vs s).1, st, (Store.disposal vs s).2) := by
  fun_induction Store.disposal vs s with
  | case1 s => rfl
  | case2 s c vs h =>
    unfold disposeAll
    simp [run_dispose_coroutine, h]
  | case3 s c vs h ih =>
    unfold disposeAll
    simp [run_dispose_coroutine, h, ih]
  | case4 v vs s h ih =>
    unfold disposeAll
    simp [run_dispose_other id s h, ih]

/-- A failing stream lets go of its source and closes what is queued. If that goes well it has
failed and wakes its pull; if a queued coroutine is just running, it stops there. -/
theorem does_fail (fault : Fault) :
    (fail (Store.surroundings id) fault).does st s =
      match Store.disposal (st.queue.toList.map (·.value)) (s.unheard id st.inflight) with
      | (.ok (), s) => (.ok (), st.failed fault, s.woken st.waiter)
      | (.error e, s) => (.error e, st.detached, s) := by
  have tail (s' : Store) : StreamM.does (do
        disposeAll (Store.surroundings id) (st.queue.toList.map (·.value))
        modify fun s => { s with queue := {}, closed := true, fault := some fault, phase := .errored }
        wake (Store.surroundings id)) st.detached s' =
      match Store.disposal (st.queue.toList.map (·.value)) s' with
      | (.ok (), s) => (.ok (), st.failed fault, s.woken st.waiter)
      | (.error e, s) => (.error e, st.detached, s) := by
    simp only [StreamM.does_bind, does_disposeAll]
    rcases h : Store.disposal (st.queue.toList.map (·.value)) s' with ⟨_ | _, s''⟩
    · rw [h]
      rfl
    · rw [h]
      simp only [StreamM.does_bind, StreamM.does_modify, StreamM.andThen_ok, does_wake]
      rfl
  unfold fail
  simp only [StreamM.does_bind, StreamM.does_get, StreamM.andThen_ok]
  cases st.inflight with
  | none => exact tail s
  | some w => exact tail (s.unheard id (some w))

theorem does_failWith {α : Type} (fault : Fault) :
    (failWith (Store.surroundings id) fault : StreamM (StateM Store) α).does st s =
      match (fail (Store.surroundings id) fault).does st s with
      | (.ok (), st, s) => (.error fault, st, s)
      | (.error e, st, s) => (.error e, st, s) := by
  unfold failWith
  rw [StreamM.does_bind]
  obtain ⟨r, st', s'⟩ := (fail (Store.surroundings id) fault).does st s
  cases r <;> rfl

/-! ### The producer's side -/

theorem does_push (members : List Value) :
    (push (Store.surroundings id) members).does st s =
      if st.closed then ((Store.disposal members s).1, st, (Store.disposal members s).2)
      else match flatten members with
        | .error fault => (.error fault, st, s)
        | .ok [] => (.ok (), st, s)
        | .ok sources => (.ok (), { st with queue := st.queue.append sources }, s.woken st.waiter) := by
  unfold push
  simp only [StreamM.does_bind, StreamM.does_get, StreamM.andThen_ok]
  split
  · exact does_disposeAll id st s members
  · rcases flatten members with _ | _ | _
    · rfl
    · rfl
    · simp only [StreamM.does_bind, StreamM.does_modify, StreamM.andThen_ok, does_wake]

theorem does_close (fault : Option Fault) :
    (close (Store.surroundings id) fault).does st s =
      if st.closed then (.ok (), st, s)
      else (.ok (), { st with closed := true, closeFault := fault }, s.woken st.waiter) := by
  unfold close
  simp only [StreamM.does_bind, StreamM.does_get, StreamM.andThen_ok]
  split
  · rfl
  · simp only [StreamM.does_bind, StreamM.does_modify, StreamM.andThen_ok, does_wake]

theorem does_abort (fault : Option Fault) :
    (abort (Store.surroundings id) fault).does st s =
      match st.phase with
      | .ended | .errored => (.ok (), st, s)
      | .idle | .draining => (fail (Store.surroundings id) (fault.getD tornDown)).does st s := by
  unfold abort
  simp only [StreamM.does_bind, StreamM.does_get, StreamM.andThen_ok]
  cases st.phase <;> rfl

theorem does_noticed (work : Nat) :
    (noticed (Store.surroundings id) work).does st s =
      if st.inflight = some work then (.ok (), st, s.woken st.waiter) else (.ok (), st, s) := by
  unfold noticed
  simp only [StreamM.does_bind, StreamM.does_get, StreamM.andThen_ok]
  split
  · exact does_wake id st s
  · rfl

end

/-! ### Sources -/

theorem classify_some {v : Value} {source : Source} (h : classify v = .ok (some source)) :
    source.value = v ∧ (source.kind = .literal → v.isLiteral) := by
  unfold classify at h
  split at h
  · cases h
  · split at h
    · next literal =>
      cases h
      exact ⟨rfl, fun _ => literal⟩
    · split at h
      · cases h
        exact ⟨rfl, nofun⟩
      · split at h
        · cases h
          exact ⟨rfl, nofun⟩
        · cases h

/-- The sources of values are made of values among them. -/
theorem classify_of_flatten {members : List Value} {sources : List Source}
    (flat : flatten members = .ok sources) {source : Source} (mem : source ∈ sources) :
    ∃ v ∈ members, classify v = .ok (some source) := by
  induction members generalizing sources with
  | nil =>
    cases flat
    cases mem
  | cons v members ih =>
    rw [flatten] at flat
    rcases first : classify v with fault | made
    · rw [first] at flat
      cases flat
    · rcases others : flatten members with fault | tail
      · rw [first, others] at flat
        cases flat
      · rw [first, others] at flat
        cases flat
        rcases List.mem_append.mp mem with here | later
        · obtain rfl := Option.mem_toList.mp here
          exact ⟨v, List.mem_cons_self .., first⟩
        · obtain ⟨u, hu, made⟩ := ih others later
          exact ⟨u, List.mem_cons_of_mem _ hu, made⟩

theorem mem_of_flatten {members : List Value} {sources : List Source}
    (flat : flatten members = .ok sources) {source : Source} (mem : source ∈ sources) :
    source.value ∈ members := by
  obtain ⟨v, hv, made⟩ := classify_of_flatten flat mem
  rw [(classify_some made).1]
  exact hv

/-! ### Case by case -/

/-- What pushing values does to a stream and the store. -/
inductive Pushes (members : List Value) (st : ChunkStream) (s : Store) :
    ChunkStream → Store → Prop where
  | dropped (closed : st.closed = true) : Pushes members st s st (Store.disposal members s).2
  | refused {fault} (opened : st.closed = false) (flat : flatten members = .error fault) :
      Pushes members st s st s
  | nothing (opened : st.closed = false) (flat : flatten members = .ok []) :
      Pushes members st s st s
  | taken {sources} (opened : st.closed = false) (flat : flatten members = .ok sources) :
      Pushes members st s { st with queue := st.queue.append sources } (s.woken st.waiter)

/-- What closing does. -/
inductive Closes (fault : Option Fault) (st : ChunkStream) (s : Store) :
    ChunkStream → Store → Prop where
  | again (closed : st.closed = true) : Closes fault st s st s
  | first (opened : st.closed = false) :
      Closes fault st s { st with closed := true, closeFault := fault } (s.woken st.waiter)

/-- What an abort does. -/
inductive Aborts (id : Nat) (fault : Fault) (st : ChunkStream) (s : Store) :
    Except Fault Unit → ChunkStream → Store → Prop where
  | late (past : st.phase = .ended ∨ st.phase = .errored) : Aborts id fault st s (.ok ()) st s
  | through {s'} (live : st.phase = .idle ∨ st.phase = .draining)
      (disposed : Store.disposal (st.queue.toList.map (·.value)) (s.unheard id st.inflight) =
        (.ok (), s')) :
      Aborts id fault st s (.ok ()) (st.failed fault) (s'.woken st.waiter)
  | cutShort {e s'} (live : st.phase = .idle ∨ st.phase = .draining)
      (disposed : Store.disposal (st.queue.toList.map (·.value)) (s.unheard id st.inflight) =
        (.error e, s')) :
      Aborts id fault st s (.error e) st.detached s'

/-- What a stream does that is told of finished work. -/
inductive Notices (w : Nat) (st : ChunkStream) (s : Store) : Store → Prop where
  | own (inflight : st.inflight = some w) : Notices w st s (s.woken st.waiter)
  | other (inflight : st.inflight ≠ some w) : Notices w st s s

section

variable {id : Nat} {st st' : ChunkStream} {s s' : Store}

theorem pushes_of_does {members : List Value} {r : Except Fault Unit}
    (h : (push (Store.surroundings id) members).does st s = (r, st', s')) :
    Pushes members st s st' s' := by
  rw [does_push] at h
  split at h
  · next closed =>
    cases h
    exact .dropped closed
  · next opened =>
    have opened := Bool.eq_false_iff.mpr opened
    split at h
    · next fault flat =>
      cases h
      exact .refused opened flat
    · next flat =>
      cases h
      exact .nothing opened flat
    · next sources _ flat =>
      cases h
      exact .taken opened flat

theorem closes_of_does {fault : Option Fault} {r : Except Fault Unit}
    (h : (close (Store.surroundings id) fault).does st s = (r, st', s')) :
    Closes fault st s st' s' := by
  rw [does_close] at h
  split at h
  · next closed =>
    cases h
    exact .again closed
  · next opened =>
    cases h
    exact .first (Bool.eq_false_iff.mpr opened)

theorem aborts_of_does {fault : Option Fault} {r : Except Fault Unit}
    (h : (abort (Store.surroundings id) fault).does st s = (r, st', s')) :
    Aborts id (fault.getD tornDown) st s r st' s' := by
  rw [does_abort, does_fail] at h
  have fails (live : st.phase = .idle ∨ st.phase = .draining)
      (h : (match Store.disposal (st.queue.toList.map (·.value)) (s.unheard id st.inflight) with
        | (.ok (), s) => (.ok (), st.failed (fault.getD tornDown), s.woken st.waiter)
        | (.error e, s) => (.error e, st.detached, s)) = (r, st', s')) :
      Aborts id (fault.getD tornDown) st s r st' s' := by
    rcases disposed : Store.disposal (st.queue.toList.map (·.value)) (s.unheard id st.inflight) with
      ⟨_ | _, s''⟩
    · rw [disposed] at h
      cases h
      exact .cutShort live disposed
    · rw [disposed] at h
      cases h
      exact .through live disposed
  rcases phase : st.phase with _ | _ | _ | _
  · rw [phase] at h
    exact fails (.inl phase) h
  · rw [phase] at h
    exact fails (.inr phase) h
  · rw [phase] at h
    cases h
    exact .late (.inl phase)
  · rw [phase] at h
    cases h
    exact .late (.inr phase)

theorem notices_of_does {w : Nat} {r : Except Fault Unit}
    (h : (noticed (Store.surroundings id) w).does st s = (r, st', s')) :
    st' = st ∧ Notices w st s s' := by
  rw [does_noticed] at h
  split at h
  · next inflight =>
    cases h
    exact ⟨rfl, .own inflight⟩
  · next inflight =>
    cases h
    exact ⟨rfl, .other inflight⟩

/-! ### What is settled stays settled -/

theorem Pushes.grows {members : List Value} (h : Pushes members st s st' s') : s.Grows s' := by
  cases h with
  | dropped => exact Store.spares_disposal _ _ fun _ _ => not_false
  | refused | nothing => exact .refl s
  | taken => exact (Store.still_woken ..).grows

theorem Closes.grows {fault : Option Fault} (h : Closes fault st s st' s') : s.Grows s' := by
  cases h with
  | again => exact .refl s
  | first => exact (Store.still_woken ..).grows

theorem Aborts.grows {fault : Fault} {r : Except Fault Unit} (h : Aborts id fault st s r st' s') :
    s.Grows s' := by
  cases h with
  | late => exact .refl s
  | through _ disposed =>
    exact ((Store.still_unheard ..).trans ((Store.still_disposal disposed).trans
      (Store.still_woken ..))).grows
  | cutShort _ disposed =>
    exact ((Store.still_unheard ..).trans (Store.still_disposal disposed)).grows

theorem Notices.grows {w : Nat} (h : Notices w st s s') : s.Grows s' := by
  cases h with
  | own => exact (Store.still_woken ..).grows
  | other => exact .refl s

end

end ChunkStream

end StreamTemplate
