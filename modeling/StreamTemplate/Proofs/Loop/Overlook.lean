import StreamTemplate.Loop.Run
import StreamTemplate.Proofs.Loop.Conduct
import StreamTemplate.Proofs.Loop.Underway

/-!
# Code that overlooks coroutines

What streams and their pulls do does not depend on how far other coroutines have come. So from two stores
that differ in that alone they come to two such stores, with the same result. This is shown of each
operation first, and then of a turn of a pull.
-/

namespace StreamTemplate

universe u v

/-! ### Stores that differ in how far coroutines have come -/

namespace Store

/-- Two stores are alike but for how far the coroutines `D` have come, none of which is running. -/
structure AlikeBut (D : Nat → Prop) (s s' : Store) : Prop where
  rest : s' = { s with coroutines := s'.coroutines }
  bodies : ∀ c : Nat, (s'.coroutines[c]?).map Coroutine.body = (s.coroutines[c]?).map Coroutine.body
  same : ∀ c : Nat, ¬ D c → s'.coroutines[c]? = s.coroutines[c]?
  there : ∀ c, D c → c < s.coroutines.size
  idle : ∀ c, D c → s.coroutineState c ≠ .running ∧ s'.coroutineState c ≠ .running

/-- None of the coroutines `D` is run: each stays where it is, or is closed. -/
def Unrun (D : Nat → Prop) (s s' : Store) : Prop :=
  ∀ c, D c → s'.coroutineState c = s.coroutineState c ∨ s'.coroutineState c = .closed

section

variable {D : Nat → Prop} {s s' s₁ : Store}

theorem Unrun.refl (s : Store) : s.Unrun D s :=
  fun _ _ => .inl rfl

theorem Unrun.trans (h : s.Unrun D s') (h' : s'.Unrun D s₁) : s.Unrun D s₁ := by
  intro c hc
  rcases h' c hc with same | closed
  · rcases h c hc with before | before
    · exact .inl (same.trans before)
    · exact .inr (same.trans before)
  · exact .inr closed

namespace AlikeBut

theorem size (h : s.AlikeBut D s') : s'.coroutines.size = s.coroutines.size := by
  have bound (a b : Array Coroutine)
      (bodies : ∀ c : Nat, (a[c]?).map Coroutine.body = (b[c]?).map Coroutine.body) : a.size ≤ b.size := by
    refine Nat.le_of_not_lt fun less => ?_
    have there := bodies b.size
    rw [Array.getElem?_eq_getElem less, Array.getElem?_eq_none (Nat.le_refl _)] at there
    cases there
  exact Nat.le_antisymm (bound _ _ h.bodies) (bound _ _ fun c => (h.bodies c).symm)

theorem symm (h : s.AlikeBut D s') : s'.AlikeBut D s where
  rest := congrArg (fun t : Store => { t with coroutines := s.coroutines }) h.rest.symm
  bodies c := (h.bodies c).symm
  same c hc := (h.same c hc).symm
  there c hc := by
    rw [h.size]
    exact h.there c hc
  idle c hc := (h.idle c hc).symm

theorem state (h : s.AlikeBut D s') {c : Nat} (other : ¬ D c) :
    s'.coroutineState c = s.coroutineState c := by
  unfold coroutineState
  rw [h.same c other]

/-- What does not depend on coroutines is the same. -/
theorem congr {α : Sort u} {f : Store → α} (h : s.AlikeBut D s')
    (heedless : ∀ s cs, f { s with coroutines := cs } = f s) : f s' = f s := by
  rw [h.rest]
  exact heedless s s'.coroutines

/-- What changes other parts of the store only leaves the stores alike. -/
theorem map {f : Store → Store} (h : s.AlikeBut D s')
    (heedless : ∀ s cs, f { s with coroutines := cs } = { f s with coroutines := cs }) :
    (f s).AlikeBut D (f s') := by
  have after : f s' = { f s with coroutines := s'.coroutines } := by
    rw [h.rest]
    exact heedless s s'.coroutines
  have before : (f s).coroutines = s.coroutines := by
    have kept := congrArg Store.coroutines (heedless s s.coroutines)
    exact kept
  rw [after]
  constructor
  case rest => rfl
  case bodies =>
    rw [before]
    exact h.bodies
  case same =>
    rw [before]
    exact h.same
  case there =>
    rw [before]
    exact h.there
  case idle =>
    unfold coroutineState
    rw [before]
    exact h.idle

theorem getElem?_setCoroutine (s : Store) (c c' : Nat) (state : CoroutineState) :
    (s.setCoroutine c state).coroutines[c']? =
      if c = c' then (s.coroutines[c']?).map ({ · with state }) else s.coroutines[c']? :=
  Array.getElem?_modify

/-- A coroutine is brought to a state where all know of it, or is closed. -/
theorem setCoroutine (h : s.AlikeBut D s') {c : Nat} {state : CoroutineState}
    (known : ¬ D c ∨ state = .closed) :
    (s.setCoroutine c state).AlikeBut D (s'.setCoroutine c state) := by
  constructor
  case rest => exact congrArg (fun t : Store => t.setCoroutine c state) h.rest
  case bodies =>
    intro c'
    simp only [getElem?_setCoroutine]
    split
    · simp only [Option.map_map]
      exact h.bodies c'
    · exact h.bodies c'
  case same =>
    intro c' other
    simp only [getElem?_setCoroutine, h.same c' other]
  case there =>
    intro c' hc
    show c' < (s.coroutines.modify c _).size
    rw [Array.size_modify]
    exact h.there c' hc
  case idle =>
    intro c' hc
    unfold Store.coroutineState
    simp only [getElem?_setCoroutine]
    split
    · next same =>
      subst same
      obtain rfl := known.resolve_left (· hc)
      have set (k : Option Coroutine) :
          (((k.map ({ · with state := CoroutineState.closed })).map (·.state)).getD .closed) = .closed := by
        cases k <;> rfl
      rw [set, set]
      exact ⟨nofun, nofun⟩
    · exact h.idle c' hc

theorem push (h : s.AlikeBut D s') (k : Coroutine) :
    { s with coroutines := s.coroutines.push k }.AlikeBut D
      { s' with coroutines := s'.coroutines.push k } := by
  have old {c : Nat} (lt : c < s.coroutines.size) : (s.coroutines.push k)[c]? = s.coroutines[c]? := by
    rw [Array.getElem?_push_lt lt, Array.getElem?_eq_getElem lt]
  have old' {c : Nat} (lt : c < s.coroutines.size) :
      (s'.coroutines.push k)[c]? = s'.coroutines[c]? := by
    rw [← h.size] at lt
    rw [Array.getElem?_push_lt lt, Array.getElem?_eq_getElem lt]
  have new {c : Nat} (ge : ¬ c < s.coroutines.size) :
      (s'.coroutines.push k)[c]? = (s.coroutines.push k)[c]? := by
    rw [Array.getElem?_push, Array.getElem?_push, h.size, Array.getElem?_eq_none (Nat.le_of_not_lt ge),
      Array.getElem?_eq_none (h.size ▸ Nat.le_of_not_lt ge)]
  constructor
  case rest => exact congrArg (fun t : Store => { t with coroutines := s'.coroutines.push k }) h.rest
  case bodies =>
    intro c
    show ((s'.coroutines.push k)[c]?).map _ = ((s.coroutines.push k)[c]?).map _
    by_cases lt : c < s.coroutines.size
    · rw [old lt, old' lt]
      exact h.bodies c
    · rw [new lt]
  case same =>
    intro c other
    show (s'.coroutines.push k)[c]? = (s.coroutines.push k)[c]?
    by_cases lt : c < s.coroutines.size
    · rw [old lt, old' lt]
      exact h.same c other
    · exact new lt
  case there =>
    intro c hc
    show c < (s.coroutines.push k).size
    rw [Array.size_push]
    exact Nat.lt_succ_of_lt (h.there c hc)
  case idle =>
    intro c hc
    unfold coroutineState
    dsimp only
    rw [old (h.there c hc), old' (h.there c hc)]
    exact h.idle c hc

end AlikeBut

/-- What is done from a store and from one that is like it comes to the same. -/
structure Agree {α : Type u} (D : Nat → Prop) (s s' : Store) (p p' : α × Store) : Prop where
  result : p'.1 = p.1
  store : p.2.AlikeBut D p'.2
  unrun : s.Unrun D p.2 ∧ s'.Unrun D p'.2

theorem Agree.trans {α : Type u} {β : Type v} {p p' : α × Store} {q q' : β × Store} (h : Agree D s s' p p')
    (h' : Agree D p.2 p'.2 q q') : Agree D s s' q q' :=
  ⟨h'.result, h'.store, h.unrun.1.trans h'.unrun.1, h.unrun.2.trans h'.unrun.2⟩

theorem Agree.of_alike {α : Type u} (alike : s.AlikeBut D s') (a : α) :
    Agree D s s' (a, s) (a, s') :=
  ⟨rfl, alike, .refl s, .refl s'⟩

/-- Only the result is another. -/
theorem Agree.map {α : Type u} {β : Type v} {p p' : α × Store} (h : Agree D s s' p p') (f : α → β) :
    Agree D s s' (f p.1, p.2) (f p'.1, p'.2) :=
  ⟨congrArg f h.result, h.store, h.unrun⟩

end

end Store

/-! ### The rule -/

/-- The rule not to depend on how far the coroutines `D` have come, and not to run them. -/
structure Overlook where
  coroutines : Nat → Prop

section

variable {B : Overlook} {α β : Type}

instance : Ruled B (StateM Store) where
  holds x := ∀ s s' : Store, s.AlikeBut B.coroutines s' →
    Store.Agree B.coroutines s s' (x.run s) (x.run s')
  pure a _ _ alike := .of_alike alike a
  bind {α β x f} hx hf s s' alike := by
    have first := hx s s' alike
    have run' : (x >>= f).run s' = (f (x.run s).1).run (x.run s').2 := by rw [← first.result]; rfl
    rw [run']
    exact first.trans (hf _ _ _ first.store)

instance : Ruled B (Process Store) where
  holds p := ∀ s s' : Store, s.AlikeBut B.coroutines s' →
    Store.Agree B.coroutines s s' (p.run s) (p.run s')
  pure a _ _ alike := .of_alike alike (Halted.done a)
  bind {α β p f} hp hf s s' alike := by
    have first := hp s s' alike
    rw [Process.run_bind, Process.run_bind]
    generalize p.run s = stopped at first
    generalize p.run s' = stopped' at first
    obtain ⟨halted, s₁⟩ := stopped
    obtain ⟨halted', s₁'⟩ := stopped'
    obtain rfl : halted' = halted := first.result
    cases halted' with
    | done a => exact first.trans (hf a _ _ first.store)
    | stuck => exact ⟨rfl, first.store, first.unrun⟩
    | waiting w k => exact ⟨rfl, first.store, first.unrun⟩

theorem Obeys.agree {x : StateM Store α} (hx : Obeys B x) {s s' : Store}
    (alike : s.AlikeBut B.coroutines s') : Store.Agree B.coroutines s s' (x.run s) (x.run s') :=
  hx s s' alike

theorem Obeys.agree_run {p : Process Store α} (hp : Obeys B p) {s s' : Store}
    (alike : s.AlikeBut B.coroutines s') : Store.Agree B.coroutines s s' (p.run s) (p.run s') :=
  hp s s' alike

namespace Overlook

/-- What does not depend on coroutines and does not change them. -/
theorem obeys_of_heedless {x : StateM Store α}
    (heedless : ∀ (s : Store) cs, x.run { s with coroutines := cs } =
      ((x.run s).1, { (x.run s).2 with coroutines := cs })) : Obeys B x := by
  intro s s' alike
  have result : (x.run s').1 = (x.run s).1 :=
    alike.congr (f := fun s => (x.run s).1) fun s cs => by rw [heedless s cs]
  have store : (x.run s).2.AlikeBut B.coroutines (x.run s').2 :=
    alike.map (f := fun s => (x.run s).2) fun s cs => by rw [heedless s cs]
  have unrun (s : Store) : s.Unrun B.coroutines (x.run s).2 := by
    have same : (x.run s).2.coroutines = s.coroutines :=
      congrArg (·.2.coroutines) (heedless s s.coroutines)
    intro c _
    unfold Store.coroutineState
    exact .inl (by rw [same])
  exact ⟨result, store, unrun s, unrun s'⟩

/-- What goes on with the store but does not look at the coroutines. -/
theorem obeys_get_bind {f : Store → StateM Store α}
    (heedless : ∀ (s : Store) cs, f { s with coroutines := cs } = f s) (hf : ∀ s, Obeys B (f s)) :
    Obeys B (get >>= f) := by
  intro s s' alike
  show Store.Agree _ s s' ((f s).run s) ((f s').run s')
  rw [alike.congr heedless]
  exact (hf s).agree alike

theorem obeys_get_act {f : Store → Act α}
    (heedless : ∀ (s : Store) cs, f { s with coroutines := cs } = f s) (hf : ∀ s, Obeys B (f s)) :
    Obeys B (get >>= f) :=
  obeys_get_bind (f := fun s => (f s).run) heedless hf

theorem obeys_setCoroutine {c : Nat} {state : CoroutineState}
    (known : ¬ B.coroutines c ∨ state = .closed) :
    Obeys B (modify (·.setCoroutine c state) : StateM Store Unit) := by
  have unrun (s : Store) : s.Unrun B.coroutines (s.setCoroutine c state) := by
    intro c' hc
    by_cases same : c = c'
    · subst same
      obtain rfl := known.resolve_left (· hc)
      exact .inr (Store.coroutineState_closed s c)
    · refine .inl ?_
      unfold Store.coroutineState
      rw [Store.AlikeBut.getElem?_setCoroutine, if_neg same]
  exact fun s s' alike => ⟨rfl, alike.setCoroutine known, unrun s, unrun s'⟩

theorem obeys_newCoroutine (body : Body) : Obeys B (Store.newCoroutine body) := by
  have unrun (s : Store) (there : ∀ c, B.coroutines c → c < s.coroutines.size) :
      s.Unrun B.coroutines ((Store.newCoroutine body).run s).2 := by
    intro c hc
    have lt := there c hc
    refine .inl ?_
    show (((s.coroutines.push _)[c]?).map _).getD _ = _
    rw [Array.getElem?_push_lt lt]
    unfold Store.coroutineState
    rw [Array.getElem?_eq_getElem lt]
  exact fun s s' alike =>
    ⟨alike.size, alike.push { body }, unrun s alike.there, unrun s' alike.symm.there⟩

theorem obeys_closeCoroutine (c : Nat) : Obeys B (Store.closeCoroutine c).run := by
  intro s s' alike
  have running : s'.coroutineState c = .running ↔ s.coroutineState c = .running := by
    by_cases known : B.coroutines c
    · have idle := alike.idle c known
      exact iff_of_false idle.2 idle.1
    · rw [alike.state known]
  rw [Store.run_closeCoroutine, Store.run_closeCoroutine]
  by_cases executing : s.coroutineState c = .running
  · rw [if_pos executing, if_pos (running.mpr executing)]
    exact .of_alike alike _
  · rw [if_neg executing, if_neg (mt running.mp executing)]
    have closed : Obeys B (modify (·.setCoroutine c .closed) : StateM Store Unit) :=
      obeys_setCoroutine (.inr rfl)
    exact (closed.agree alike).map fun _ => (.ok () : Except Fault Unit)

/-! ### Operations of the event loop -/

theorem obeys_enqueue (r : Ready) : Obeys B (Store.enqueue r) :=
  obeys_of_heedless fun _ _ => rfl

theorem obeys_newFuture : Obeys B Store.newFuture :=
  obeys_of_heedless fun _ _ => rfl

theorem obeys_newTask (c : Nat) (report : Option String) : Obeys B (Store.newTask c report) :=
  obeys_of_heedless fun _ _ => rfl

theorem obeys_modifyFuture (w : Nat) (f : Future → Future) : Obeys B (Store.modifyFuture w f) :=
  obeys_of_heedless fun _ _ => rfl

theorem obeys_complete (w : Nat) (p : Progress) : Obeys B (Store.complete w p) := by
  refine obeys_get_bind (fun _ _ => rfl) fun s => ?_
  split
  · exact obeys_pure _
  · exact (obeys_modifyFuture w _).bind fun _ => obeys_forM (fun _ => obeys_enqueue _) _

theorem obeys_listen (w : Nat) (x : Listener) : Obeys B (Store.listen w x) := by
  refine obeys_get_bind (fun _ _ => rfl) fun s => ?_
  split
  · exact obeys_modifyFuture w _
  · exact obeys_enqueue _

theorem obeys_cancelWithin (depth t : Nat) : Obeys B (Store.cancelWithin depth t) := by
  induction depth generalizing t with
  | zero => exact obeys_pure _
  | succ depth ih =>
    have mark (passedOn : Bool) : Obeys B (do
        unless passedOn do Store.modifyTask t fun t => { t with mustCancel := true }
        return true : StateM Store Bool) := by
      cases passedOn with
      | true => exact (obeys_pure _).bind fun _ => obeys_pure _
      | false => exact (obeys_modifyFuture t _).bind fun _ => obeys_pure _
    refine obeys_get_bind (fun _ _ => rfl) fun s => ?_
    dsimp only
    split
    · exact obeys_pure _
    · split
      · exact (obeys_complete t _).bind fun _ => obeys_pure _
      · split
        · exact (ih _).bind mark
        · exact (obeys_pure _).bind mark

theorem obeys_cancel (t : Nat) : Obeys B (Store.cancel t) :=
  obeys_get_bind (fun _ _ => rfl) fun _ => obeys_cancelWithin _ t

theorem obeys_startAwaiting (v : Value) : Obeys B (Store.startAwaiting v) := by
  unfold Store.startAwaiting
  split
  · exact obeys_pure _
  · exact obeys_pure _
  · exact obeys_newTask _ none
  · exact (obeys_newCoroutine _).bind fun _ => obeys_newTask _ none

theorem obeys_surroundings (id : Nat) : (Store.surroundings id).Obeys B where
  start v := (obeys_startAwaiting v).map Except.ok
  iterate _ := obeys_of_heedless fun _ _ => rfl
  request _ := (obeys_newCoroutine _).bind fun _ => obeys_newTask _ none
  progress _ := obeys_of_heedless fun _ _ => rfl
  listen w := obeys_listen w _
  ignore w := obeys_modifyFuture w _
  wake w := by
    refine obeys_get_bind (fun _ _ => rfl) fun s => ?_
    split
    · exact obeys_complete _ _
    · exact obeys_pure _
  dispose v := by
    unfold Store.surroundings
    dsimp only
    split
    · exact obeys_closeCoroutine _
    · exact obeys_pure _
  normalize _ := obeys_of_heedless fun _ _ => rfl

/-- Whatever is done on a stream. -/
theorem obeys_onStream (id : Nat) {op : Surroundings (StateM Store) → StreamM (StateM Store) α}
    (ho : Obeys B (op (Store.surroundings id))) : Obeys B (Store.onStream id op) := by
  have stored (st : ChunkStream) : Obeys B
      (modify fun s => { s with streams := s.streams.setIfInBounds id st } : Act Unit) :=
    obeys_of_heedless fun _ _ => rfl
  refine obeys_get_act (fun _ _ => rfl) fun s => ?_
  split
  · exact Act.obeys_fail _
  · exact (Act.obeys_always (ho _)).bind fun r => (stored r.2).bind fun _ => Act.obeys_ofExcept _

/-! ### Pulls -/

theorem obeys_act {a : Act α} (ha : Obeys B a) : Obeys B (Run.act a) :=
  fun _ _ alike => (ha.run.agree alike).map Halted.done

theorem obeys_wait (w : Wait) : Obeys B (Run.wait w) :=
  fun _ _ alike => .of_alike alike _

theorem obeys_stuck : Obeys B (Run.stuck : Run α) :=
  fun _ _ alike => .of_alike alike _

theorem obeys_get_run {f : Store → Run α}
    (heedless : ∀ (s : Store) cs, f { s with coroutines := cs } = f s) (hf : ∀ s, Obeys B (f s)) :
    Obeys B (Run.act get >>= f) := by
  intro s s' alike
  show Store.Agree _ s s' ((f s).run.run s) ((f s').run.run s')
  rw [alike.congr heedless]
  exact (hf s).run.agree_run alike

theorem obeys_awaitFuture (w : Nat) : Obeys B (awaitFuture w) := by
  have deliver : Obeys B (do Run.ofExcept ((← Run.act get).progress w).deliver) :=
    obeys_get_run (fun _ _ => rfl) fun s => Run.obeys_ofExcept _
  refine obeys_get_run (fun _ _ => rfl) fun s => ?_
  dsimp only
  split
  · split
    · exact (obeys_throw _).bind fun _ => deliver
    · exact (obeys_wait _).bind fun _ => deliver
  · exact deliver

theorem obeys_note (id : Nat) (f : ChunkStream → ChunkStream) :
    Obeys B (Run.act (Store.onStream id fun _ => modify f)) :=
  obeys_act (obeys_onStream id (StreamM.obeys_modify f))

theorem obeys_awaitWake (id : Nat) : Obeys B (awaitWake id) := by
  refine (obeys_act (Act.obeys_always obeys_newFuture)).bind fun waiter => ?_
  refine (obeys_note id _).bind fun _ => Run.obeys_ensuring ?_ (obeys_note id _)
  exact (obeys_awaitFuture waiter).map _

theorem obeys_pullWithin (id : Nat) (size : Option Int) (rounds : Nat) :
    Obeys B (pullWithin id size rounds) := by
  induction rounds with
  | zero => exact obeys_stuck
  | succ rounds ih =>
    refine (obeys_act (obeys_onStream id
      (ChunkStream.obeys_advance (obeys_surroundings id) size))).bind fun next => ?_
    cases next with
    | chunk v => exact obeys_pure _
    | ended => exact obeys_pure _
    | wait => exact (obeys_awaitWake id).bind fun _ => ih

theorem obeys_serve (id : Nat) {rounds : Run (Option Value)} (hr : Obeys B rounds) :
    Obeys B (Pull.serve id rounds) := by
  refine (Run.obeys_attempt (Run.obeys_ensuring hr (obeys_note id _))).bind fun _ => ?_
  exact (Run.obeys_ofExcept _).bind fun _ => obeys_pure _

theorem obeys_rest (id : Nat) (size : Option Int) (w rounds : Nat) (thrown : Option Fault) :
    Obeys B (Pull.rest id size w rounds thrown) := by
  refine obeys_serve id (Obeys.bind (Run.obeys_ensuring ?_ (obeys_note id _)) fun _ =>
    obeys_pullWithin id size rounds)
  refine Obeys.map (Obeys.bind (Run.obeys_ofExcept _) fun _ => ?_) _
  exact obeys_get_run (fun _ _ => rfl) fun s => Run.obeys_ofExcept _

/-- A coroutine that is not overlooked runs. -/
theorem obeys_superviseCoroutine {c : Nat} (other : ¬ B.coroutines c)
    {outer : Option Nat} {p : Process Store (Except Fault Value)} (hp : Obeys B p) :
    Obeys B (superviseCoroutine c outer p) := by
  have set (state : CoroutineState) :
      Obeys B (modify (·.setCoroutine c state) : StateM Store Unit) :=
    obeys_setCoroutine (.inl other)
  intro s s' alike
  have first := hp.agree_run alike
  rw [Pull.run_superviseCoroutine, Pull.run_superviseCoroutine]
  generalize p.run s = stopped at first
  generalize p.run s' = stopped' at first
  obtain ⟨halted, s₁⟩ := stopped
  obtain ⟨halted', s₁'⟩ := stopped'
  obtain rfl : halted' = halted := first.result
  cases halted' with
  | done r => exact first.trans (((set .closed).agree first.store).map fun _ => _)
  | stuck => exact first
  | waiting w k => exact first.trans (((set _).agree first.store).map fun _ => _)

/-- A pull that waits is resumed. -/
theorem obeys_resumption {c : Nat} (other : ¬ B.coroutines c) (id : Nat) (size : Option Int)
    (outer : Option Nat) (w rounds : Nat) (thrown : Option Fault) :
    Obeys B (Pull.resumption id size c outer w rounds thrown) := by
  have left : Obeys B (Process.act (Store.setContext outer) fun () =>
      .done (.error spent : Except Fault Value)) := by
    intro s s' alike
    have back : Obeys B (Store.setContext outer) := obeys_of_heedless fun _ _ => rfl
    have first := back.agree alike
    exact first.trans (.of_alike first.store _)
  have goOn : Obeys B (Process.act (modify (·.setCoroutine c .running)) fun () =>
      superviseCoroutine c outer (Pull.rest id size w rounds thrown).run) := by
    intro s s' alike
    have run : Obeys B (modify (·.setCoroutine c .running) : StateM Store Unit) :=
      obeys_setCoroutine (.inl other)
    have first := run.agree alike
    exact first.trans ((obeys_superviseCoroutine other
      (obeys_rest id size w rounds thrown).run).agree_run first.store)
  intro s s' alike
  show Store.Agree _ s s' (Process.run (if s.coroutineState c = .closed then _ else _) s)
    (Process.run (if s'.coroutineState c = .closed then _ else _) s')
  rw [alike.state other]
  split
  · exact left.agree_run alike
  · exact goOn.agree_run alike

/-- The task of a pull begins, unless its coroutine waits. -/
theorem agree_taskMain {id c : Nat} {size : Option Int} {s s' : Store} {k : Coroutine}
    (other : ¬ B.coroutines c) (alike : s.AlikeBut B.coroutines s') (hk : s.coroutines[c]? = some k)
    (body : k.body = .call id (.pull size)) (suspended : ∀ f, s.coroutineState c ≠ .suspended f)
    (thrown : Option Fault) :
    Store.Agree B.coroutines s s' ((taskMain mainEngine c thrown).run.run s)
      ((taskMain mainEngine c thrown).run.run s') := by
  have set (state : CoroutineState) :
      Obeys B (modify (·.setCoroutine c state) : StateM Store Unit) :=
    obeys_setCoroutine (.inl other)
  have refused (fault : Fault) : Obeys B (do
      Run.act (modify fun s => s.setCoroutine c .closed)
      throw fault : Run Value) :=
    (obeys_act (Act.obeys_always (set .closed))).bind fun _ => obeys_throw _
  have begun (outer : Option Nat) : Obeys B (superviseCoroutine c outer (mainEngine.body k.body).run) := by
    rw [Pull.code_call body]
    refine obeys_superviseCoroutine other (Obeys.run ?_)
    refine Obeys.bind (obeys_act (obeys_onStream id ChunkStream.obeys_beginPull)) fun _ => ?_
    exact obeys_serve id (obeys_pullWithin id size _)
  have hk' := (alike.same c other).trans hk
  unfold taskMain
  have run (s : Store) (f : Store → Run Value) :
      (Run.act get >>= f).run.run s = (f s).run.run s := rfl
  rw [run, run, alike.state other]
  cases state : s.coroutineState c with
  | created =>
    cases thrown with
    | none =>
      show Store.Agree _ s s' ((runCoroutine mainEngine c).run.run s)
        ((runCoroutine mainEngine c).run.run s')
      unfold runCoroutine
      rw [run, run, hk, hk']
      have begins : Obeys B (do
          Run.act (modify fun s => s.setCoroutine c .running)
          ExceptT.mk (superviseCoroutine c s.context (mainEngine.body k.body).run) : Run Value) :=
        (obeys_act (Act.obeys_always (set .running))).bind fun _ => begun _
      rw [alike.congr (f := Store.context) fun _ _ => rfl]
      exact begins.run.agree_run alike
    | some fault => exact (refused fault).run.agree_run alike
  | running => exact (obeys_throw _ : Obeys B (throw _ : Run Value)).run.agree_run alike
  | suspended f => exact absurd state (suspended f)
  | closed => exact (obeys_throw _ : Obeys B (throw _ : Run Value)).run.agree_run alike

/-! ### Turns -/

theorem obeys_finishTask (t : Nat) (τ : TaskState) (r : Except Fault Value) :
    Obeys B (EventLoop.finishTask t τ r) := by
  unfold EventLoop.finishTask
  dsimp only
  split
  · exact .bind (obeys_of_heedless fun _ _ => rfl) fun _ => obeys_complete t _
  · exact obeys_complete t _

theorem obeys_suspendTask (t : Nat) (w : Wait) : Obeys B (EventLoop.suspendTask t w) := by
  cases w with
  | turn => exact obeys_enqueue _
  | future future =>
    refine (obeys_listen future _).bind fun _ => (obeys_modifyFuture t _).bind fun _ => ?_
    refine obeys_get_bind (fun _ _ => rfl) fun s => ?_
    split
    · refine (obeys_cancel future).bind fun _ => ?_
      split
      · exact obeys_modifyFuture t _
      · exact obeys_pure _
    · exact obeys_pure _

end Overlook

end

namespace EventLoop

/-- Two event loops are alike but for how far the coroutines `D` have come. -/
structure AlikeBut (D : Nat → Prop) (l l' : EventLoop) : Prop where
  store : l.store.AlikeBut D l'.store
  waiting : l'.waiting = l.waiting

/-- Two event loops that are alike go on to two that are, and none of the coroutines `D` is run. -/
structure Agree (D : Nat → Prop) (l l' l₁ l₁' : EventLoop) : Prop where
  alike : l₁.AlikeBut D l₁'
  unrun : l.store.Unrun D l₁.store ∧ l'.store.Unrun D l₁'.store

section

variable {D : Nat → Prop} {l l' : EventLoop} {s s' : Store}

theorem AlikeBut.symm (h : l.AlikeBut D l') : l'.AlikeBut D l :=
  ⟨h.store.symm, h.waiting.symm⟩

theorem Agree.of_alike (h : l.AlikeBut D l') : Agree D l l' l l' :=
  ⟨h, .refl _, .refl _⟩

/-- Something is done on the store. -/
theorem AlikeBut.withStore {α : Type} (h : l.AlikeBut D l') {x : StateM Store α}
    (hx : Obeys (Overlook.mk D) x) : (l'.withStore x).1 = (l.withStore x).1 ∧
      Agree D l l' (l.withStore x).2 (l'.withStore x).2 := by
  obtain ⟨result, store, unrun⟩ := hx.agree h.store
  exact ⟨result, ⟨store, h.waiting⟩, unrun⟩

theorem AlikeBut.concludeTask (h : l.AlikeBut D l') (t : Nat) (τ : TaskState)
    {p p' : Halted Store (Except Fault Value) × Store} (ran : Store.Agree D s s' p p') :
    (l.concludeTask t τ p).AlikeBut D (l'.concludeTask t τ p') ∧
      s.Unrun D (l.concludeTask t τ p).store ∧ s'.Unrun D (l'.concludeTask t τ p').store := by
  obtain ⟨halted, s₁⟩ := p
  obtain ⟨halted', s₁'⟩ := p'
  obtain rfl : halted' = halted := ran.result
  have left : Obeys (Overlook.mk D) (modify (leaveTask t) : StateM Store Unit) :=
    Overlook.obeys_of_heedless fun _ _ => rfl
  have done := ran.trans (left.agree ran.store)
  have queue : l'.waiting.filter (·.1 ≠ t) = l.waiting.filter (·.1 ≠ t) := by rw [h.waiting]
  cases halted' with
  | done r =>
    have known : ((leaveTask t s₁').futures[t]?.bind (·.task)).getD τ =
        ((leaveTask t s₁).futures[t]?.bind (·.task)).getD τ :=
      done.store.congr (f := fun s => (s.futures[t]?.bind (·.task)).getD τ) fun _ _ => rfl
    have finished := done.trans ((Overlook.obeys_finishTask t
      (((leaveTask t s₁).futures[t]?.bind (·.task)).getD τ) r).agree done.store)
    refine ⟨⟨?_, queue⟩, ?_⟩
    · show Store.AlikeBut D _ ((finishTask t (((leaveTask t s₁').futures[t]?.bind _).getD τ) r).run _).2
      rw [known]
      exact finished.store
    · show _ ∧ Store.Unrun D _
        ((finishTask t (((leaveTask t s₁').futures[t]?.bind _).getD τ) r).run _).2
      rw [known]
      exact finished.unrun
  | stuck => exact ⟨⟨done.store, queue⟩, done.unrun⟩
  | waiting w k =>
    have waits := done.trans ((Overlook.obeys_suspendTask t w).agree done.store)
    exact ⟨⟨waits.store, congrArg ((t, k) :: ·) queue⟩, waits.unrun⟩

/-- A turn of a call: it is away, or it waits. -/
theorem AlikeBut.stepTask {id : Nat} {a : Pull.Call} (h : l.AlikeBut D l') (other : ¬ D a.coroutine)
    (placed : a.Placed id l.store) (stands : a.Away l ∨ ∃ w rounds, a.Paused id w rounds l)
    (thrown : Option Fault) :
    Agree D l l' (l.stepTask a.task thrown) (l'.stepTask a.task thrown) := by
  obtain ⟨τ, task, coroutine⟩ := placed.task
  obtain ⟨k, hk, body⟩ := placed.coroutine
  have task' : l'.store.task? a.task = some τ :=
    (h.store.congr (f := fun s => s.task? a.task) fun _ _ => rfl).trans task
  have same : l'.store.isPending a.task = l.store.isPending a.task :=
    h.store.congr (f := fun s => s.isPending a.task) fun _ _ => rfl
  cases pending : l.store.isPending a.task with
  | false =>
    rw [Pull.stepTask_past thrown pending, Pull.stepTask_past thrown (same.trans pending)]
    exact .of_alike h
  | true =>
    have entered : Obeys (Overlook.mk D) (modify (enterTask a.task τ) : StateM Store Unit) :=
      Overlook.obeys_of_heedless fun _ _ => rfl
    have enters := entered.agree h.store
    have process : l'.process a.task τ (thrownInto τ thrown) =
        l.process a.task τ (thrownInto τ thrown) := by
      unfold EventLoop.process
      rw [h.waiting]
    have ran : Store.Agree D (enterTask a.task τ l.store) (enterTask a.task τ l'.store)
        ((l.process a.task τ (thrownInto τ thrown)).run (enterTask a.task τ l.store))
        ((l.process a.task τ (thrownInto τ thrown)).run (enterTask a.task τ l'.store)) := by
      rcases stands with away | ⟨w, rounds, paused⟩
      · rw [Pull.process_of_none away.lookup coroutine]
        exact Overlook.agree_taskMain (B := .mk D) other enters.store hk body away.coroutine _
      · obtain ⟨outer, lookup⟩ := paused.lookup
        rw [Pull.process_of_some lookup]
        exact (Overlook.obeys_resumption (B := .mk D) other id a.size outer w rounds _).agree_run enters.store
    rw [Pull.stepTask_eq thrown pending task, Pull.stepTask_eq thrown (same.trans pending) task', process]
    obtain ⟨alike, unrun⟩ := h.concludeTask a.task τ (enters.trans ran)
    exact ⟨alike, unrun⟩

end

end EventLoop

end StreamTemplate
