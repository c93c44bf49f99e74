import StreamTemplate.Loop.Supply

/-!
# What changes of the store leave alone

Code that waits relies on what others do to the store meanwhile: a future that is done keeps its
outcome, whoever listens to a future is told once it is done, and nobody meddles with tasks and
coroutines of others. `Store.Spares` says so of a change, for the listeners, tasks and coroutines in
question. The operations of the event loop are gone through one by one.
-/

namespace StreamTemplate

/-- What a future may become: it keeps its outcome, and which coroutine it is the task of. All else
about its task and its progress may change unless it is spared. -/
structure Future.Becomes (spared : Prop) (f f' : Future) : Prop where
  outcome : f.progress ≠ .pending → f'.progress = f.progress
  coroutine : f'.task.map (·.coroutine) = f.task.map (·.coroutine)
  spared : spared → f'.progress = f.progress ∧ f'.task = f.task

/-- What a coroutine may become: its state may change unless it is spared. -/
structure Coroutine.Becomes (spared : Prop) (k k' : Coroutine) : Prop where
  body : k'.body = k.body
  spared : spared → k'.state = k.state

theorem Future.Becomes.refl {spared : Prop} (f : Future) : f.Becomes spared f :=
  ⟨fun _ => rfl, rfl, fun _ => ⟨rfl, rfl⟩⟩

theorem Coroutine.Becomes.refl {spared : Prop} (k : Coroutine) : k.Becomes spared k :=
  ⟨rfl, fun _ => rfl⟩

namespace Store

variable {L : Listener → Prop} {T C : Nat → Prop} {s s' s'' : Store}

/-- The task that a future is. -/
def task? (s : Store) (w : Nat) : Option TaskState :=
  s.futures[w]?.bind (·.task)

/-- A listener is sure to be told of a future: it listens while the future is pending, and what
tells it is ready once the future is done. -/
def Told (s : Store) (x : Listener) (w : Nat) : Prop :=
  ∃ f, s.futures[w]? = some f ∧ (f.progress = .pending → x ∈ f.listeners) ∧
    (f.progress ≠ .pending → x.whenDone w ∈ s.ready.toList)

/-- A change of the store keeps what is settled and spares the listeners `L`, the tasks `T` and the
coroutines `C`. -/
structure Spares (L : Listener → Prop) (T C : Nat → Prop) (s s' : Store) : Prop where
  future : ∀ w (f : Future), s.futures[w]? = some f →
    ∃ f', s'.futures[w]? = some f' ∧ f.Becomes (T w) f'
  told : ∀ x w, L x → s.Told x w → s'.Told x w
  coroutine : ∀ c (k : Coroutine), s.coroutines[c]? = some k →
    ∃ k', s'.coroutines[c]? = some k' ∧ k.Becomes (C c) k'

/-- A change of the store that keeps what is settled. -/
def Grows (s s' : Store) : Prop :=
  Spares (fun _ => False) (fun _ => False) (fun _ => False) s s'

/-! ### Futures and their outcomes -/

theorem progress_of_some {w : Nat} {f : Future} (h : s.futures[w]? = some f) :
    s.progress w = f.progress := by
  simp [progress, h]

theorem isPending_iff (s : Store) (w : Nat) : s.isPending w ↔ s.progress w = .pending := by
  unfold isPending
  split <;> simp_all

theorem not_isPending_iff (s : Store) (w : Nat) : ¬ s.isPending w ↔ s.progress w ≠ .pending := by
  rw [isPending_iff]

/-- A future that is finished is there. -/
theorem lt_of_finished {w : Nat} {v : Value} (finished : s.progress w = .finished v) :
    w < s.futures.size := by
  refine Nat.lt_of_not_le fun ge => ?_
  rw [progress, Array.getElem?_eq_none ge] at finished
  cases finished

/-- A future that is pending is there. -/
theorem exists_of_isPending {w : Nat} (h : s.isPending w) :
    ∃ f, s.futures[w]? = some f ∧ f.progress = .pending := by
  rw [isPending_iff] at h
  cases hf : s.futures[w]? with
  | none => simp [progress, hf] at h
  | some f => exact ⟨f, rfl, by rw [← h, progress_of_some hf]⟩

theorem lt_size_of_isPending {w : Nat} (h : s.isPending w) : w < s.futures.size := by
  obtain ⟨f, hf, _⟩ := exists_of_isPending h
  exact (Array.getElem?_eq_some_iff.mp hf).1

theorem Told.mem_ready {x : Listener} {w : Nat} (h : s.Told x w) (pending : ¬ s.isPending w) :
    x.whenDone w ∈ s.ready.toList := by
  obtain ⟨f, hf, -, ready⟩ := h
  refine ready ?_
  rwa [not_isPending_iff, progress_of_some hf] at pending

theorem Told.lt_size {x : Listener} {w : Nat} (h : s.Told x w) : w < s.futures.size := by
  obtain ⟨f, hf, -⟩ := h
  exact (Array.getElem?_eq_some_iff.mp hf).1

/-! ### Changes that follow each other -/

namespace Spares

theorem of_same (futures : s'.futures = s.futures) (ready : s'.ready = s.ready)
    (coroutines : s'.coroutines = s.coroutines) : Spares L T C s s' where
  future w f hf := ⟨f, by rw [futures, hf], .refl f⟩
  told x w _ h := by rwa [Told, futures, ready]
  coroutine c k hk := ⟨k, by rw [coroutines, hk], .refl k⟩

theorem refl (s : Store) : Spares L T C s s :=
  of_same rfl rfl rfl

theorem trans (h : Spares L T C s s') (h' : Spares L T C s' s'') : Spares L T C s s'' where
  future w f hf := by
    obtain ⟨f', hf', becomes⟩ := h.future w f hf
    obtain ⟨f'', hf'', becomes'⟩ := h'.future w f' hf'
    refine ⟨f'', hf'', fun done => ?_, becomes'.coroutine.trans becomes.coroutine, fun ht => ?_⟩
    · have outcome := becomes.outcome done
      rw [becomes'.outcome (by rwa [outcome]), outcome]
    · rw [(becomes'.spared ht).1, (becomes'.spared ht).2]
      exact becomes.spared ht
  told x w hx told := h'.told x w hx (h.told x w hx told)
  coroutine c k hk := by
    obtain ⟨k', hk', becomes⟩ := h.coroutine c k hk
    obtain ⟨k'', hk'', becomes'⟩ := h'.coroutine c k' hk'
    exact ⟨k'', hk'', becomes'.body.trans becomes.body,
      fun hc => (becomes'.spared hc).trans (becomes.spared hc)⟩

theorem mono {L' : Listener → Prop} {T' C' : Nat → Prop} (h : Spares L T C s s')
    (listener : ∀ x, L' x → L x) (task : ∀ w, T' w → T w) (coroutine : ∀ c, C' c → C c) :
    Spares L' T' C' s s' where
  future w f hf := by
    obtain ⟨f', hf', outcome, same, spared⟩ := h.future w f hf
    exact ⟨f', hf', outcome, same, fun ht => spared (task w ht)⟩
  told x w hx := h.told x w (listener x hx)
  coroutine c k hk := by
    obtain ⟨k', hk', body, spared⟩ := h.coroutine c k hk
    exact ⟨k', hk', body, fun hc => spared (coroutine c hc)⟩

theorem grows (h : Spares L T C s s') : s.Grows s' :=
  h.mono (fun _ => False.elim) (fun _ => False.elim) fun _ => False.elim

theorem futures (h : Spares L T C s s') : s.futures.size ≤ s'.futures.size := by
  refine Nat.le_of_not_lt fun less => ?_
  obtain ⟨f', hf', -⟩ := h.future s'.futures.size _ (Array.getElem?_eq_getElem less)
  exact Nat.lt_irrefl _ (Array.getElem?_eq_some_iff.mp hf').1

theorem coroutines (h : Spares L T C s s') : s.coroutines.size ≤ s'.coroutines.size := by
  refine Nat.le_of_not_lt fun less => ?_
  obtain ⟨k', hk', -⟩ := h.coroutine s'.coroutines.size _ (Array.getElem?_eq_getElem less)
  exact Nat.lt_irrefl _ (Array.getElem?_eq_some_iff.mp hk').1

theorem coroutineState (h : Spares L T C s s') {c : Nat} (lt : c < s.coroutines.size)
    (spared : C c) : s'.coroutineState c = s.coroutineState c := by
  have hk := Array.getElem?_eq_getElem lt
  obtain ⟨k', hk', becomes⟩ := h.coroutine c _ hk
  unfold Store.coroutineState
  rw [hk, hk']
  exact becomes.spared spared

theorem progress (h : Spares L T C s s') {w : Nat} (lt : w < s.futures.size)
    (done : ¬ s.isPending w) : s'.progress w = s.progress w := by
  have hf := Array.getElem?_eq_getElem lt
  obtain ⟨f', hf', becomes⟩ := h.future w _ hf
  rw [not_isPending_iff, progress_of_some hf] at done
  rw [progress_of_some hf, progress_of_some hf', becomes.outcome done]

theorem progress_task (h : Spares L T C s s') {w : Nat} (lt : w < s.futures.size) (spared : T w) :
    s'.progress w = s.progress w := by
  have hf := Array.getElem?_eq_getElem lt
  obtain ⟨f', hf', becomes⟩ := h.future w _ hf
  rw [progress_of_some hf, progress_of_some hf', (becomes.spared spared).1]

theorem still_pending (h : Spares L T C s s') {w : Nat} (pending : s.isPending w) (spared : T w) :
    s'.isPending w := by
  rw [isPending_iff, h.progress_task (lt_size_of_isPending pending) spared]
  exact (isPending_iff ..).mp pending

theorem task? (h : Spares L T C s s') {w : Nat} (lt : w < s.futures.size) (spared : T w) :
    s'.task? w = s.task? w := by
  have hf := Array.getElem?_eq_getElem lt
  obtain ⟨f', hf', becomes⟩ := h.future w _ hf
  simp only [Store.task?, hf, hf', Option.bind_some, (becomes.spared spared).2]

/-- A future is the task of the same coroutine as before, or still none. -/
theorem task?_coroutine (h : Spares L T C s s') {w : Nat} (lt : w < s.futures.size) :
    (s'.task? w).map (·.coroutine) = (s.task? w).map (·.coroutine) := by
  have hf := Array.getElem?_eq_getElem lt
  obtain ⟨f', hf', becomes⟩ := h.future w _ hf
  simp only [Store.task?, hf, hf', Option.bind_some, becomes.coroutine]

theorem isPending (h : Spares L T C s s') {w : Nat} (lt : w < s.futures.size)
    (pending : s'.isPending w) : s.isPending w := by
  by_cases before : s.isPending w
  · exact before
  · rw [isPending_iff, h.progress lt before] at pending
    exact (isPending_iff s w).mpr pending

end Spares

/-! ### Tasks that are begun -/

/-- The tasks that were begun between two stores. -/
def begun (before after : Store) : List Nat :=
  (List.range after.futures.size).filter fun w =>
    before.futures.size ≤ w && (after.task? w).isSome

theorem begun_of_size (size : s'.futures.size = s.futures.size) : s.begun s' = [] := by
  refine List.filter_eq_nil_iff.mpr fun w hw => ?_
  rw [size] at hw
  have lt := List.mem_range.mp hw
  simp [Nat.not_le.mpr lt]

theorem Spares.begun_trans {L' : Listener → Prop} {T' C' : Nat → Prop} (h : Spares L T C s s')
    (h' : Spares L' T' C' s' s'') : s.begun s'' = s.begun s' ++ s'.begun s'' := by
  obtain ⟨n, size⟩ := Nat.exists_eq_add_of_le h'.futures
  have old : ∀ w ∈ List.range s'.futures.size,
      (decide (s.futures.size ≤ w) && (s''.task? w).isSome) =
        (decide (s.futures.size ≤ w) && (s'.task? w).isSome) := by
    intro w hw
    have same := congrArg Option.isSome (h'.task?_coroutine (List.mem_range.mp hw))
    rw [Option.isSome_map, Option.isSome_map] at same
    rw [same]
  have none : (List.range s'.futures.size).filter (fun w =>
      decide (s'.futures.size ≤ w) && (s''.task? w).isSome) = [] := by
    refine List.filter_eq_nil_iff.mpr fun w hw => ?_
    simp [Nat.not_le.mpr (List.mem_range.mp hw)]
  have new : ∀ w ∈ (List.range n).map (s'.futures.size + ·),
      (decide (s.futures.size ≤ w) && (s''.task? w).isSome) =
        (decide (s'.futures.size ≤ w) && (s''.task? w).isSome) := by
    intro w hw
    obtain ⟨k, -, rfl⟩ := List.mem_map.mp hw
    have first := h.futures
    simp [Nat.le_trans first (Nat.le_add_right _ k)]
  unfold begun
  rw [size, List.range_add, List.filter_append, List.filter_append, none, List.nil_append,
    List.filter_congr old, List.filter_congr new]

theorem begun_congr (size : s'.futures.size = s.futures.size) : s'.begun s'' = s.begun s'' := by
  unfold begun
  rw [size]

/-- From `s` to `s'` no future comes into being, and what is settled stays settled. -/
structure Still (s s' : Store) : Prop where
  grows : s.Grows s'
  size : s'.futures.size = s.futures.size

namespace Still

theorem refl (s : Store) : Still s s :=
  ⟨.refl s, rfl⟩

theorem trans (h : Still s s') (h' : Still s' s'') : Still s s'' :=
  ⟨h.grows.trans h'.grows, h'.size.trans h.size⟩

theorem begun (h : Still s s') : s.begun s' = [] :=
  begun_of_size h.size

/-- What is begun is begun before and stays begun. -/
theorem begun_after (h : Still s' s'') (grows : s.Grows s') : s.begun s'' = s.begun s' := by
  rw [grows.begun_trans h.grows, h.begun, List.append_nil]

end Still

/-! ### The operations of the event loop -/

theorem spares_enqueue (r : Ready) (s : Store) : Spares L T C s ((enqueue r).run s).2 where
  future w f hf := ⟨f, hf, .refl f⟩
  told x w _ := by
    rintro ⟨f, hf, listens, ready⟩
    refine ⟨f, hf, listens, fun done => ?_⟩
    show _ ∈ (s.ready.push r).toList
    rw [Queue.toList_push]
    exact List.mem_append_left _ (ready done)
  coroutine c k hk := ⟨k, hk, .refl k⟩

/-- Changing what belongs to a future but is not its outcome. -/
theorem spares_modifyFuture {id : Nat} {g : Future → Future} (s : Store)
    (progress : ∀ f, (g f).progress = f.progress)
    (coroutine : ∀ f, (g f).task.map (·.coroutine) = f.task.map (·.coroutine))
    (task : T id → ∀ f, (g f).task = f.task)
    (listeners : ∀ f, ∀ x ∈ f.listeners, L x → x ∈ (g f).listeners) :
    Spares L T C s ((modifyFuture id g).run s).2 := by
  have lookup (w : Nat) : ((modifyFuture id g).run s).2.futures[w]? =
      if id = w then s.futures[w]?.map g else s.futures[w]? := Array.getElem?_modify
  constructor
  case future =>
    intro w f hf
    rw [lookup, hf]
    split
    · next h =>
      subst h
      exact ⟨g f, rfl, fun _ => progress f, coroutine f, fun ht => ⟨progress f, task ht f⟩⟩
    · exact ⟨f, rfl, .refl f⟩
  case told =>
    rintro x w hx ⟨f, hf, listens, ready⟩
    unfold Told
    rw [lookup, hf]
    split
    · refine ⟨g f, rfl, fun pending => ?_, fun done => ?_⟩
      · exact listeners f x (listens (progress f ▸ pending)) hx
      · exact ready (progress f ▸ done)
    · exact ⟨f, rfl, listens, ready⟩
  case coroutine => exact fun c k hk => ⟨k, hk, .refl k⟩

theorem run_forM_enqueue (id : Nat) (xs : List Listener) (s : Store) :
    ((xs.forM fun x => enqueue (x.whenDone id)).run s).2 =
      { s with ready := s.ready.append (xs.map (·.whenDone id)) } := by
  induction xs generalizing s with
  | nil => rfl
  | cons x xs ih => exact ih _

/-- Changing what belongs to a future but is not its outcome. -/
theorem progress_modifyFuture {g : Future → Future} (progress : ∀ f, (g f).progress = f.progress)
    (id w : Nat) (s : Store) : ((modifyFuture id g).run s).2.progress w = s.progress w := by
  show (((s.futures.modify id g)[w]?).map _).getD _ = _
  rw [Array.getElem?_modify]
  unfold Store.progress
  split
  · cases s.futures[w]? with
    | none => rfl
    | some f => exact progress f
  · rfl

/-- The store once a future is completed. -/
def completed (s : Store) (id : Nat) (p : Progress) : Store :=
  ((complete id p).run s).2

theorem completed_eq (s : Store) (id : Nat) (p : Progress) :
    s.completed id p =
      match s.futures[id]? with
      | none => s
      | some f =>
        { s with
          futures := s.futures.modify id fun f => { f with progress := p, listeners := [] }
          ready := s.ready.append (f.listeners.map (·.whenDone id)) } := by
  unfold completed complete
  simp only [StateT.run_bind, StateT.run_get, pure_bind]
  cases s.futures[id]? with
  | none => rfl
  | some f => exact run_forM_enqueue id f.listeners _

theorem heap_completed (s : Store) (id : Nat) (p : Progress) : (s.completed id p).heap = s.heap := by
  rw [completed_eq]
  split <;> rfl

theorem streams_completed (s : Store) (id : Nat) (p : Progress) :
    (s.completed id p).streams = s.streams := by
  rw [completed_eq]
  split <;> rfl

theorem coroutines_completed (s : Store) (id : Nat) (p : Progress) :
    (s.completed id p).coroutines = s.coroutines := by
  rw [completed_eq]
  split <;> rfl

theorem size_completed (s : Store) (id : Nat) (p : Progress) :
    (s.completed id p).futures.size = s.futures.size := by
  rw [completed_eq]
  split
  · rfl
  · exact Array.size_modify

theorem progress_completed {id : Nat} (lt : id < s.futures.size) (p : Progress) :
    (s.completed id p).progress id = p := by
  rw [completed_eq, Array.getElem?_eq_getElem lt]
  unfold progress
  simp only [Array.getElem?_modify, if_true, Array.getElem?_eq_getElem lt]
  rfl

theorem task?_completed (s : Store) (id w : Nat) (p : Progress) :
    (s.completed id p).task? w = s.task? w := by
  rw [completed_eq]
  split
  · rfl
  · unfold task?
    simp only [Array.getElem?_modify]
    split <;> cases s.futures[w]? <;> rfl

/-- Completing a pending future. -/
theorem spares_completed {id : Nat} {p : Progress} (pending : s.isPending id) (done : p ≠ .pending)
    (spared : ¬ T id) :
    Spares L T C s (s.completed id p) := by
  obtain ⟨f₀, hf₀, hp⟩ := exists_of_isPending pending
  rw [completed_eq, hf₀]
  constructor
  case future =>
    intro w f hf
    simp only [Array.getElem?_modify]
    by_cases h : id = w
    · subst h
      rw [if_pos rfl, hf₀]
      cases hf₀.symm.trans hf
      exact ⟨_, rfl, fun hd => absurd hp hd, rfl, fun ht => absurd ht spared⟩
    · rw [if_neg h]
      exact ⟨f, hf, .refl f⟩
  case told =>
    rintro x w hx ⟨f, hf, listens, ready⟩
    simp only [Told, Array.getElem?_modify, Queue.toList_append]
    by_cases h : id = w
    · subst h
      rw [if_pos rfl, hf₀]
      cases hf₀.symm.trans hf
      have mem : x.whenDone id ∈ f₀.listeners.map (·.whenDone id) :=
        List.mem_map_of_mem (listens hp)
      exact ⟨_, rfl, fun h => absurd h done, fun _ => List.mem_append_right _ mem⟩
    · rw [if_neg h]
      exact ⟨f, hf, listens, fun hd => List.mem_append_left _ (ready hd)⟩
  case coroutine => exact fun c k hk => ⟨k, hk, .refl k⟩

theorem spares_modifyTask {id : Nat} {g : TaskState → TaskState} (s : Store)
    (coroutine : ∀ τ, (g τ).coroutine = τ.coroutine) (spared : ¬ T id) :
    Spares L T C s ((modifyTask id g).run s).2 := by
  refine spares_modifyFuture s (fun _ => rfl) (fun f => ?_) (fun h => absurd h spared)
    fun _ _ hx _ => hx
  cases f.task with
  | none => rfl
  | some τ => exact congrArg some (coroutine τ)

theorem spares_ignore (id : Nat) (x : Listener) (s : Store) (deaf : ¬ L x) :
    Spares L T C s ((ignore id x).run s).2 := by
  refine spares_modifyFuture s (fun _ => rfl) (fun _ => rfl) (fun _ _ => rfl) fun f y hy listens => ?_
  simp only [List.mem_filter, decide_eq_true_eq]
  refine ⟨hy, ?_⟩
  rintro rfl
  exact deaf listens

theorem run_listen (id : Nat) (x : Listener) (s : Store) :
    ((listen id x).run s).2 =
      if s.isPending id then
        { s with futures := s.futures.modify id fun f => { f with listeners := f.listeners ++ [x] } }
      else { s with ready := s.ready.push (x.whenDone id) } := by
  unfold listen
  simp only [StateT.run_bind, StateT.run_get, pure_bind]
  split <;> rfl

theorem heap_listen (id : Nat) (x : Listener) (s : Store) :
    ((listen id x).run s).2.heap = s.heap := by
  rw [run_listen]
  split <;> rfl

theorem streams_listen (id : Nat) (x : Listener) (s : Store) :
    ((listen id x).run s).2.streams = s.streams := by
  rw [run_listen]
  split <;> rfl

theorem coroutines_listen (id : Nat) (x : Listener) (s : Store) :
    ((listen id x).run s).2.coroutines = s.coroutines := by
  rw [run_listen]
  split <;> rfl

theorem size_listen (id : Nat) (x : Listener) (s : Store) :
    ((listen id x).run s).2.futures.size = s.futures.size := by
  rw [run_listen]
  split
  · exact Array.size_modify
  · rfl

theorem progress_listen (id w : Nat) (x : Listener) (s : Store) :
    ((listen id x).run s).2.progress w = s.progress w := by
  rw [run_listen]
  split
  · exact progress_modifyFuture (g := fun f => { f with listeners := f.listeners ++ [x] })
      (fun _ => rfl) id w s
  · rfl

theorem spares_listen (id : Nat) (x : Listener) (s : Store) :
    Spares L T C s ((listen id x).run s).2 := by
  unfold listen
  simp only [StateT.run_bind, StateT.run_get, pure_bind]
  split
  · exact spares_modifyFuture s (fun _ => rfl) (fun _ => rfl) (fun _ _ => rfl)
      fun f y hy _ => List.mem_append_left _ hy
  · exact spares_enqueue _ s

/-- Whoever begins to listen to a future that is there is told. -/
theorem told_listen {id : Nat} (x : Listener) (lt : id < s.futures.size) :
    ((listen id x).run s).2.Told x id := by
  have hf := Array.getElem?_eq_getElem lt
  unfold listen
  simp only [StateT.run_bind, StateT.run_get, pure_bind]
  split
  · next pending =>
    rw [isPending_iff, progress_of_some hf] at pending
    refine ⟨{ s.futures[id] with listeners := s.futures[id].listeners ++ [x] }, ?_, ?_, ?_⟩
    · show (s.futures.modify id _)[id]? = _
      rw [Array.getElem?_modify, if_pos rfl, hf]
      rfl
    · exact fun _ => List.mem_append_right _ (List.mem_singleton_self x)
    · exact fun done => absurd pending done
  · next done =>
    rw [not_isPending_iff, progress_of_some hf] at done
    refine ⟨s.futures[id], hf, fun pending => absurd pending done, fun _ => ?_⟩
    show _ ∈ (s.ready.push _).toList
    rw [Queue.toList_push]
    exact List.mem_append_right _ (List.mem_singleton_self _)

/-- Adding a future. -/
theorem spares_push (f₀ : Future) (s : Store) :
    Spares L T C s { s with futures := s.futures.push f₀ } := by
  have lookup (w : Nat) (f : Future) (h : s.futures[w]? = some f) :
      (s.futures.push f₀)[w]? = some f := by
    have lt := (Array.getElem?_eq_some_iff.mp h).1
    rw [Array.getElem?_push_lt lt, ← Array.getElem?_eq_getElem lt, h]
  constructor
  case future => exact fun w f hf => ⟨f, lookup w f hf, .refl f⟩
  case told =>
    rintro x w _ ⟨f, hf, told⟩
    exact ⟨f, lookup w f hf, told⟩
  case coroutine => exact fun c k hk => ⟨k, hk, .refl k⟩

theorem task?_push (f₀ : Future) (s : Store) :
    ({ s with futures := s.futures.push f₀ } : Store).task? s.futures.size = f₀.task := by
  unfold task?
  simp

theorem begun_push (f₀ : Future) (s : Store) :
    s.begun { s with futures := s.futures.push f₀ } =
      if f₀.task.isSome then [s.futures.size] else [] := by
  unfold begun
  have size : (s.futures.push f₀).size = s.futures.size + 1 := Array.size_push ..
  have none : (List.range s.futures.size).filter (fun w => decide (s.futures.size ≤ w) &&
      (({ s with futures := s.futures.push f₀ } : Store).task? w).isSome) = [] := by
    refine List.filter_eq_nil_iff.mpr fun w hw => ?_
    simp [Nat.not_le.mpr (List.mem_range.mp hw)]
  rw [size, List.range_succ, List.filter_append, none, List.nil_append, List.filter_cons,
    task?_push]
  simp

theorem spares_newFuture (s : Store) : Spares L T C s (newFuture.run s).2 :=
  spares_push {} s

theorem begun_newFuture (s : Store) : s.begun (newFuture.run s).2 = [] :=
  begun_push {} s

theorem begun_newTask (coroutine : Nat) (report : Option String) (s : Store) :
    s.begun ((newTask coroutine report).run s).2 = [s.futures.size] :=
  begun_push { task := some { coroutine, context := s.context, report } } s

theorem spares_newTask (coroutine : Nat) (report : Option String) (s : Store) :
    Spares L T C s ((newTask coroutine report).run s).2 :=
  (spares_push _ s).trans (spares_enqueue _ _)

theorem spares_newCoroutine (body : Body) (s : Store) :
    Spares L T C s ((newCoroutine body).run s).2 where
  future w f hf := ⟨f, hf, .refl f⟩
  told x w _ h := h
  coroutine c k hk := by
    have lt := (Array.getElem?_eq_some_iff.mp hk).1
    refine ⟨k, ?_, .refl k⟩
    show (s.coroutines.push _)[c]? = _
    rw [Array.getElem?_push_lt lt, ← Array.getElem?_eq_getElem lt, hk]

theorem spares_setCoroutine {c : Nat} (state : CoroutineState) (s : Store) (spared : ¬ C c) :
    Spares L T C s (s.setCoroutine c state) where
  future w f hf := ⟨f, hf, .refl f⟩
  told x w _ h := h
  coroutine c' k hk := by
    show ∃ k', (s.coroutines.modify c _)[c']? = some k' ∧ _
    rw [Array.getElem?_modify, hk]
    split
    · next h =>
      subst h
      exact ⟨_, rfl, rfl, fun hc => absurd hc spared⟩
    · exact ⟨k, rfl, .refl k⟩

theorem run_closeCoroutine (c : Nat) (s : Store) :
    (closeCoroutine c).run.run s =
      if s.coroutineState c = .running then (.error executing, s)
      else (.ok (), s.setCoroutine c .closed) := by
  show StateT.run (ExceptT.run (if s.coroutineState c = .running then throw executing
    else modify fun s : Store => s.setCoroutine c .closed)) s = _
  split <;> rfl

/-- Taking the next thing that is ready. -/
theorem dequeue_eq {r : Ready} (h : s.dequeue = some (r, s')) :
    ∃ ready, s' = { s with ready } ∧ s.ready.toList = r :: ready.toList := by
  unfold dequeue at h
  cases hn : s.ready.next? with
  | none => rw [hn] at h; cases h
  | some p =>
    obtain ⟨a, ready⟩ := p
    rw [hn] at h
    cases h
    exact ⟨ready, rfl, Queue.toList_of_next? hn⟩

/-- Whoever still listens, or is not meant by what is taken, is told as before. -/
theorem told_dequeue {r : Ready} (h : s.dequeue = some (r, s')) {x : Listener} {w : Nat}
    (told : s.Told x w) (other : s.isPending w ∨ r ≠ x.whenDone w) : s'.Told x w := by
  obtain ⟨ready, rfl, list⟩ := dequeue_eq h
  obtain ⟨f, hf, listens, mem⟩ := told
  refine ⟨f, hf, listens, fun done => ?_⟩
  rcases other with pending | other
  · rw [isPending_iff, progress_of_some hf] at pending
    exact absurd pending done
  · have mem := mem done
    rw [list] at mem
    exact (List.mem_cons.mp mem).resolve_left other.symm

theorem spares_dequeue {r : Ready} (h : s.dequeue = some (r, s'))
    (other : ∀ x w, L x → r ≠ x.whenDone w) : Spares L T C s s' := by
  have told := fun x w hx told => told_dequeue (x := x) (w := w) h told (.inr (other x w hx))
  obtain ⟨ready, rfl, -⟩ := dequeue_eq h
  exact
    { future := fun w f hf => ⟨f, hf, .refl f⟩
      told
      coroutine := fun c k hk => ⟨k, hk, .refl k⟩ }

/-! ### What is ready -/

/-- From `s` to `s'` asynchronous generators stay as they are, and what is ready stays ready. -/
structure Leaves (s s' : Store) : Prop where
  generators : s'.generators = s.generators
  ready : s.ready.toList ⊆ s'.ready.toList

namespace Leaves

theorem of_same (generators : s'.generators = s.generators) (ready : s'.ready = s.ready) :
    s.Leaves s' :=
  ⟨generators, by rw [ready]; exact List.Subset.refl _⟩

theorem refl (s : Store) : s.Leaves s :=
  .of_same rfl rfl

theorem trans (h : s.Leaves s') (h' : s'.Leaves s'') : s.Leaves s'' :=
  ⟨h'.generators.trans h.generators, List.Subset.trans h.ready h'.ready⟩

theorem enqueue (r : Ready) (s : Store) : s.Leaves ((enqueue r).run s).2 := by
  refine ⟨rfl, ?_⟩
  show _ ⊆ (s.ready.push r).toList
  rw [Queue.toList_push]
  exact List.subset_append_left ..

theorem completed (s : Store) (id : Nat) (p : Progress) : s.Leaves (s.completed id p) := by
  rw [completed_eq]
  split
  · exact refl s
  · refine ⟨rfl, ?_⟩
    rw [Queue.toList_append]
    exact List.subset_append_left ..

theorem listen (id : Nat) (x : Listener) (s : Store) : s.Leaves ((listen id x).run s).2 := by
  rw [run_listen]
  split
  · exact .of_same rfl rfl
  · exact enqueue _ s

theorem newTask (coroutine : Nat) (report : Option String) (s : Store) :
    s.Leaves ((newTask coroutine report).run s).2 :=
  ⟨rfl, (enqueue (.step s.futures.size none) s).ready⟩

end Leaves

end Store

end StreamTemplate
