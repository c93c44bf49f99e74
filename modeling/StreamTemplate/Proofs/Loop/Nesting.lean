import StreamTemplate.Proofs.Loop.Amid
import StreamTemplate.Proofs.Loop.Frame
import StreamTemplate.Proofs.Loop.Rule

/-!
# Render contexts nest

Code works with render contexts as with a stack. It does everything with the innermost context that it has
entered current; it enters a context only just after that was made, and in the end it has left all that it
has entered. While it waits others may do what they like, as long as the same context is current when it
is resumed and still tells of the same template. That is a conduct, hence whatever the event loop runs
keeps to it: code does not see the contexts of renders that go on inside it or beside it.
-/

namespace StreamTemplate

/-! ### What shows of a render context -/

/-- A render context by its number, and what it tells of its template. -/
abbrev Frame :=
  Nat × RenderContext

/-- The number of the render context that was entered last, those of `entered` being the innermost
first, or `root` if none was entered. -/
def innermost (root : Option Nat) : List Frame → Option Nat
  | [] => root
  | f :: _ => some f.1

namespace Store

/-- The render context of a frame tells of its template, whatever line it has come to. -/
def Has (s : Store) (f : Frame) : Prop :=
  ∃ line, s.contexts[f.1]? = some { f.2 with line }

/-- The render context that was entered last is current, and all that were entered tell of their
templates. -/
structure Shows (s : Store) (root : Option Nat) (entered : List Frame) : Prop where
  context : s.context = innermost root entered
  has : ∀ f ∈ entered, s.Has f

/-- From `s` to `s'` render contexts go on telling of their templates. -/
def Recalls (s s' : Store) : Prop :=
  ∀ f, s.Has f → s'.Has f

/-- What one finds in `s'` when one goes on, having stopped in `s`. -/
structure Resumes (s s' : Store) : Prop where
  context : s'.context = s.context
  recalls : s.Recalls s'

/-- From `s` to `s'` render contexts go on telling of their templates, and tasks keep the render contexts
that are current in them. -/
structure Remembers (s s' : Store) : Prop where
  recalls : s.Recalls s'
  futures : s.futures.size ≤ s'.futures.size
  tasks : ∀ t < s.futures.size, (s'.task? t).map (·.context) = (s.task? t).map (·.context)

/-- From `s` to `s'`, besides, no render context changes but the current one, in which a line is noted, and
a new task begins with a copy of the current one. -/
structure Respects (s s' : Store) : Prop extends Remembers s s' where
  others : ∀ i < s.contexts.size, s.context ≠ some i → s'.contexts[i]? = s.contexts[i]?
  copies : ∀ t τ, s.futures.size ≤ t → s'.task? t = some τ → τ.context = s.context

/-- From `s` to `s'` the current render context stays so. -/
structure Stays (s s' : Store) : Prop extends Respects s s' where
  context : s'.context = s.context

section

variable {s s' s'' : Store} {root : Option Nat} {entered : List Frame} {f : Frame} {i : Nat}

theorem Has.lt (h : s.Has f) : f.1 < s.contexts.size := by
  obtain ⟨line, there⟩ := h
  exact (Array.getElem?_eq_some_iff.mp there).1

theorem has_of_lt (lt : i < s.contexts.size) : s.Has (i, s.contexts[i]) :=
  ⟨s.contexts[i].line, Array.getElem?_eq_getElem lt⟩

/-- The current render context tells of the template of the one entered last. -/
theorem Shows.context? (h : s.Shows root (f :: entered)) : ∃ line, s.context? = some { f.2 with line } := by
  obtain ⟨line, there⟩ := h.has f List.mem_cons_self
  refine ⟨line, ?_⟩
  rw [Store.context?, h.context]
  exact there

theorem Recalls.trans (h : s.Recalls s') (h' : s'.Recalls s'') : s.Recalls s'' :=
  fun f has => h' f (h f has)

theorem Recalls.of_same (same : s'.contexts = s.contexts) : s.Recalls s' := by
  rintro f ⟨line, there⟩
  exact ⟨line, same ▸ there⟩

theorem Recalls.lt (h : s.Recalls s') (lt : i < s.contexts.size) : i < s'.contexts.size :=
  (h _ (has_of_lt lt)).lt

theorem Shows.resumes (h : s.Shows root entered) (resumes : s.Resumes s') : s'.Shows root entered :=
  ⟨resumes.context.trans h.context, fun f mem => resumes.recalls f (h.has f mem)⟩

theorem Stays.resumes (h : s.Stays s') : s.Resumes s' :=
  ⟨h.context, h.recalls⟩

theorem Remembers.of_futures (recalls : s.Recalls s') (futures : s'.futures = s.futures) :
    s.Remembers s' where
  recalls := recalls
  futures := Nat.le_of_eq (congrArg _ futures.symm)
  tasks t _ := by rw [task?, futures, task?]

theorem Remembers.of_same (contexts : s'.contexts = s.contexts) (futures : s'.futures = s.futures) :
    s.Remembers s' :=
  .of_futures (.of_same contexts) futures

theorem Remembers.trans (h : s.Remembers s') (h' : s'.Remembers s'') : s.Remembers s'' where
  recalls := h.recalls.trans h'.recalls
  futures := Nat.le_trans h.futures h'.futures
  tasks t lt := by rw [h'.tasks t (Nat.lt_of_lt_of_le lt h.futures), h.tasks t lt]

theorem Respects.of_contexts (recalls : s.Recalls s')
    (others : ∀ i < s.contexts.size, s.context ≠ some i → s'.contexts[i]? = s.contexts[i]?)
    (futures : s'.futures = s.futures) : s.Respects s' where
  toRemembers := .of_futures recalls futures
  others := others
  copies t τ ge task := by
    rw [task?, futures, Array.getElem?_eq_none ge] at task
    cases task

theorem Respects.of_same (contexts : s'.contexts = s.contexts) (futures : s'.futures = s.futures) :
    s.Respects s' :=
  .of_contexts (.of_same contexts) (fun _ _ _ => by rw [contexts]) futures

theorem Stays.of_same (contexts : s'.contexts = s.contexts) (futures : s'.futures = s.futures)
    (context : s'.context = s.context) : s.Stays s' :=
  ⟨.of_same contexts futures, context⟩

theorem Stays.trans (h : s.Stays s') (h' : s'.Stays s'') : s.Stays s'' where
  toRemembers := h.toRemembers.trans h'.toRemembers
  others i lt other := by
    rw [h'.others i (h.recalls.lt lt) (by rwa [h.context]), h.others i lt other]
  copies t τ ge task := by
    rcases Nat.lt_or_ge t s'.futures.size with lt | ge'
    · have kept := h'.tasks t lt
      rw [task] at kept
      obtain ⟨τ', task', same⟩ := Option.map_eq_some_iff.mp kept.symm
      exact same.symm.trans (h.copies t τ' ge task')
    · exact (h'.copies t τ ge' task).trans h.context
  context := h'.context.trans h.context

end

end Store

/-! ### Processes -/

namespace Process

variable {α β : Type} {root : Option Nat} {outer entered : List Frame} {s : Store}

/-- A process goes on from a store, within the render contexts `outer`. Having entered those of `entered`
itself, it does everything with the one entered last current. From one thing to the next it may leave some
of its own, or enter one that was made just before. In the end it has left all of its own. -/
def Nests (root : Option Nat) (outer entered : List Frame) : Process Store α → Store → Prop
  | done _, s => entered = [] ∧ s.Shows root outer
  | stuck, _ => True
  | act x k, s => s.Shows root (entered ++ outer) ∧ s.Respects (x.run s).2 ∧
    ∃ entered', (entered' <:+ entered ∨ ∃ f, entered' = f :: entered ∧ f.1 + 1 = s.contexts.size) ∧
      (k (x.run s).1).Nests root outer entered' (x.run s).2
  | wait _ k, s => s.Shows root (entered ++ outer) ∧
    ∀ thrown s', s.Resumes s' → (k thrown).Nests root outer entered s'

namespace Nests

/-- Something is done and no render context entered or left. -/
theorem act {γ : Type} {x : StateM Store γ} {k : γ → Process Store α}
    (shows : s.Shows root (entered ++ outer)) (respects : s.Respects (x.run s).2)
    (rest : (k (x.run s).1).Nests root outer entered (x.run s).2) :
    (Process.act x k).Nests root outer entered s :=
  ⟨shows, respects, entered, .inl List.suffix_rfl, rest⟩

/-- What follows a process is in the render contexts that the process was in. -/
theorem bind (own : List Frame) {p : Process Store α} {f : α → Process Store β}
    (h : p.Nests root (own ++ outer) entered s)
    (next : ∀ a s', s'.Shows root (own ++ outer) → (f a).Nests root outer own s') :
    (p >>= f).Nests root outer (entered ++ own) s := by
  induction p generalizing entered s with
  | done a =>
    obtain ⟨rfl, shows⟩ := h
    exact next a s shows
  | stuck => trivial
  | act x k ih =>
    obtain ⟨shows, respects, entered', moves, rest⟩ := h
    refine ⟨List.append_assoc .. ▸ shows, respects, entered' ++ own, ?_, ih _ rest⟩
    rcases moves with ⟨left, rfl⟩ | ⟨f, rfl, new⟩
    · exact .inl ⟨left, (List.append_assoc ..).symm⟩
    · exact .inr ⟨f, rfl, new⟩
  | wait w k ih =>
    obtain ⟨shows, rest⟩ := h
    exact ⟨List.append_assoc .. ▸ shows, fun thrown s' resumes => ih thrown (rest thrown s' resumes)⟩

/-- The render context from before a coroutine is current again when it is over, even if it was closed
while it waited. -/
theorem superviseCoroutine {id : Nat} {p : Process Store (Except Fault Value)}
    (h : p.Nests root outer entered s) (has : ∀ f ∈ outer, s.Has f) :
    (superviseCoroutine id (innermost root outer) p).Nests root outer entered s := by
  have set (state : CoroutineState) (s : Store) : s.Respects (s.setCoroutine id state) :=
    .of_same rfl rfl
  induction p generalizing entered s with
  | done r =>
    obtain ⟨rfl, shows⟩ := h
    exact .act shows (set _ s) ⟨rfl, shows.context, shows.has⟩
  | stuck => trivial
  | act x k ih =>
    obtain ⟨shows, respects, entered', moves, rest⟩ := h
    exact ⟨shows, respects, entered', moves, ih _ rest fun f mem => respects.recalls f (has f mem)⟩
  | wait w k ih =>
    obtain ⟨shows, rest⟩ := h
    refine .act shows (set _ s) ⟨⟨shows.context, shows.has⟩, fun thrown s' resumes => ?_⟩
    have shows' : s'.Shows root (entered ++ outer) := shows.resumes ⟨resumes.context, resumes.recalls⟩
    have has' : ∀ f ∈ outer, s'.Has f := fun f mem => resumes.recalls f (has f mem)
    refine .act shows' (.of_same rfl rfl) ?_
    show Process.Nests root outer entered (if s'.coroutineState id = .closed then _ else _) s'
    split
    · exact ⟨shows', .of_same rfl rfl, [], .inl (List.nil_suffix ..), rfl, rfl, has'⟩
    · exact .act shows' (set _ s') (ih thrown (rest thrown _ ⟨resumes.context, resumes.recalls⟩) has')

/-- A process goes on so among others that leave the current render context alone. -/
theorem of_goesAmid {p q : Process Store α} {s' : Store} (h : p.Nests root outer entered s)
    (goes : p.GoesAmid Store.Resumes s q s') : ∃ entered', q.Nests root outer entered' s' := by
  induction goes generalizing entered with
  | here => exact ⟨entered, h⟩
  | act _ ih =>
    obtain ⟨-, -, entered', -, rest⟩ := h
    exact ih rest
  | wait others _ ih => exact ih (h.2 _ _ others)

/-- Among others that leave the current render context alone, a process that ends brings back the one
from before. -/
theorem of_runsAmid {p : Process Store α} {a : α} {s' : Store} (h : p.Nests root outer entered s)
    (run : p.RunsAmid Store.Resumes s a s') : s'.Shows root outer := by
  obtain ⟨_, -, shows⟩ := h.of_goesAmid run.goesAmid
  exact shows

/-- What a process leaves that has run until it waits or ends. -/
theorem run {p : Process Store α} (h : p.Nests root outer entered s) : s.Remembers (p.run s).2 := by
  induction p generalizing entered s with
  | done | stuck | wait => exact .of_same rfl rfl
  | act x k ih =>
    obtain ⟨-, respects, entered', -, rest⟩ := h
    exact respects.toRemembers.trans (ih _ rest)

end Nests

end Process

/-! ### The rule -/

/-- The rule to work with render contexts as with a stack. -/
inductive Nesting
  | nesting

open Nesting

instance : Ruled nesting (StateM Store) where
  holds x := ∀ s : Store, s.Stays (x.run s).2
  pure _ _ := .of_same rfl rfl rfl
  bind hx hf s := (hx s).trans (hf _ _)

instance : Ruled nesting (Process Store) where
  holds p := ∀ root outer s, s.Shows root outer → p.Nests root outer [] s
  pure _ _ _ _ shows := ⟨rfl, shows⟩
  bind hx hf root outer s shows :=
    Process.Nests.bind [] (hx root outer s shows) fun a s' shows' => hf a root outer s' shows'

namespace Nesting

variable {α : Type}

theorem obeys_ofState {x : StateM Store α} (hx : Obeys nesting x) :
    Obeys nesting (Process.ofState x) := by
  intro root outer s shows
  have stays : s.Stays (x.run s).2 := hx s
  exact .act shows stays.toRespects ⟨rfl, shows.resumes stays.resumes⟩

theorem obeys_modify {f : Store → Store} (stays : ∀ s : Store, s.Stays (f s)) :
    Obeys nesting (Run.act (modify f : Act Unit)) :=
  obeys_ofState stays

theorem obeys_get : Obeys nesting (Run.act get) :=
  obeys_ofState fun _ => .of_same rfl rfl rfl

theorem obeys_wait (w : Wait) : Obeys nesting (Run.wait w) := by
  intro root outer s shows
  refine ⟨shows, fun thrown s' resumes => ?_⟩
  cases thrown <;> exact ⟨rfl, shows.resumes resumes⟩

theorem obeys_stuck : Obeys nesting (Run.stuck : Run α) :=
  fun _ _ _ _ => trivial

theorem nests_get {α : Type} {root : Option Nat} {outer : List Frame} {s : Store} {f : Store → Run α}
    (shows : s.Shows root outer) (hf : (f s).run.Nests root outer [] s) :
    (Run.act get >>= f).run.Nests root outer [] s :=
  .act shows (.of_same rfl rfl) hf

theorem obeys_runCoroutine {e : Engine} (body : ∀ b, Obeys nesting (e.body b)) (id : Nat) :
    Obeys nesting (runCoroutine e id) := by
  intro root outer s shows
  refine nests_get shows ?_
  split
  · exact ⟨rfl, shows⟩
  · next c _ =>
    have begun : (s.setCoroutine id .running).Shows root outer := ⟨shows.context, shows.has⟩
    refine .act shows (.of_same rfl rfl) ?_
    rw [shows.context]
    exact ((body c.body).run root outer _ begun).superviseCoroutine begun.has

theorem runsCoroutines : RunsCoroutines nesting where
  get := obeys_get
  setCoroutine _ _ := obeys_modify fun _ => .of_same rfl rfl rfl
  setGenerator _ _ := obeys_modify fun _ => .of_same rfl rfl rfl
  wait := obeys_wait
  stuck := obeys_stuck
  runCoroutine := obeys_runCoroutine

end Nesting

/-! ### The conduct -/

namespace Store

theorem stays_newContext (c : RenderContext) (s : Store) : s.Stays ((Store.newContext c).run s).2 := by
  have old {i : Nat} (lt : i < s.contexts.size) :
      ((Store.newContext c).run s).2.contexts[i]? = s.contexts[i]? := by
    show (s.contexts.push c)[i]? = _
    rw [Array.getElem?_push_lt lt, Array.getElem?_eq_getElem lt]
  refine ⟨.of_contexts (fun f has => ?_) (fun i lt _ => old lt) rfl, rfl⟩
  obtain ⟨line, there⟩ := has
  exact ⟨line, (old (Array.getElem?_eq_some_iff.mp there).1).trans there⟩

/-- A line may be noted in the render context that is current. -/
theorem stays_setLine {context : Nat} (line : Int) {s : Store} (current : s.context = some context) :
    s.Stays ((Store.setLine context line).run s).2 := by
  have noted (i : Nat) : ((Store.setLine context line).run s).2.contexts[i]? =
      if context = i then (s.contexts[i]?).map ({ · with line }) else s.contexts[i]? :=
    Array.getElem?_modify
  refine ⟨.of_contexts ?_ (fun i lt other => ?_) rfl, rfl⟩
  · rintro f ⟨line', there⟩
    rw [Has, noted, there]
    split
    · exact ⟨line, rfl⟩
    · exact ⟨line', rfl⟩
  · rw [noted, if_neg fun same => other (current.trans (congrArg some same))]

theorem stays_pushFuture (s : Store) (f : Future) (task : ∀ τ, f.task = some τ → τ.context = s.context)
    {ready : Queue Ready} : s.Stays { s with futures := s.futures.push f, ready } where
  recalls := .of_same rfl
  others _ _ _ := rfl
  futures := by
    show _ ≤ (s.futures.push f).size
    rw [Array.size_push]
    omega
  tasks t lt := by
    show ((s.futures.push f)[t]?.bind (·.task)).map (·.context) = _
    rw [Array.getElem?_push_lt lt, task?, Array.getElem?_eq_getElem lt]
  copies t τ ge there := by
    change (s.futures.push f)[t]?.bind (·.task) = some τ at there
    rw [Array.getElem?_push] at there
    split at there
    · exact task τ there
    · rw [Array.getElem?_eq_none ge] at there
      cases there
  context := rfl

theorem stays_modifyFuture (id : Nat) {f : Future → Future}
    (context : ∀ future, (f future).task.map (·.context) = future.task.map (·.context)) (s : Store) :
    s.Stays ((Store.modifyFuture id f).run s).2 where
  recalls := .of_same rfl
  others _ _ _ := rfl
  futures := Nat.le_of_eq Array.size_modify.symm
  tasks t _ := by
    show ((Array.modify s.futures id f)[t]?.bind (·.task)).map (·.context) = _
    rw [Array.getElem?_modify, task?]
    split
    · cases s.futures[t]? with
      | none => rfl
      | some future => exact context future
    · rfl
  copies t τ ge there := by
    have gone : (Array.modify s.futures id f)[t]? = none :=
      Array.getElem?_eq_none (Nat.le_trans (Nat.le_of_eq Array.size_modify) ge)
    change (Array.modify s.futures id f)[t]?.bind (·.task) = some τ at there
    rw [gone] at there
    cases there
  context := rfl

theorem stays_completed (s : Store) (id : Nat) (p : Progress) : s.Stays (s.completed id p) := by
  have contexts : (s.completed id p).contexts = s.contexts := by
    rw [completed_eq]
    split <;> rfl
  have context : (s.completed id p).context = s.context := by
    rw [completed_eq]
    split <;> rfl
  have remembers : s.Remembers (s.completed id p) :=
    ⟨.of_same contexts, Nat.le_of_eq (s.size_completed id p).symm, fun t _ => by rw [task?_completed]⟩
  refine ⟨⟨remembers, fun _ _ _ => by rw [contexts], fun t τ ge there => ?_⟩, context⟩
  rw [task?_completed, task?, Array.getElem?_eq_none ge] at there
  cases there

end Store

/-- To work with render contexts as with a stack. -/
def Conduct.nesting : Conduct where
  act x := Obeys Nesting.nesting x
  run p := Obeys Nesting.nesting p
  within context _ p := ∀ c root outer s, Store.Shows s root ((context, c) :: outer) →
    p.Nests root ((context, c) :: outer) [] s
  leaves context before _ p := ∀ c root outer s, Store.Shows s root ((context, c) :: outer) →
    before = innermost root outer → p.Nests root outer [(context, c)] s
  act_pure := obeys_pure
  act_bind := Obeys.bind
  run_done := obeys_pure
  run_stuck := fun _ _ _ _ => trivial
  run_act := Nesting.obeys_ofState
  run_wait goesOn root outer s shows :=
    ⟨shows, fun thrown s' resumes => goesOn thrown root outer s' (shows.resumes resumes)⟩
  run_bind := Obeys.bind
  within_run hp _ _ _ _ shows := hp _ _ _ shows
  within_bind hp hf c root outer s shows :=
    .bind [] (hp c root outer s shows) fun a s' shows' => hf a c root outer s' shows'
  setLine context line c root outer s shows := by
    have stays := Store.stays_setLine line shows.context
    exact .act shows stays.toRespects ⟨rfl, shows.resumes stays.resumes⟩
  leaves_within hp hf c root outer s shows same :=
    .bind [_] (hp c root outer s shows) fun a s' shows' => hf a c root outer s' shows' same
  leaves_back hp c root outer s shows same := by
    have back : ({ s with context := innermost root outer } : Store).Shows root outer :=
      ⟨rfl, fun f mem => shows.has f (List.mem_cons_of_mem _ mem)⟩
    rw [same]
    exact ⟨shows, .of_same rfl rfl, [], .inl (List.nil_suffix ..), hp root outer _ back⟩
  newContext c f leaves root outer s shows := by
    have made := Store.stays_newContext c s
    have shows' := shows.resumes made.resumes
    refine .act shows made.toRespects (.act shows' (.of_same rfl rfl) ?_)
    have size : (s.contexts.push c).size = s.contexts.size + 1 := Array.size_push ..
    have new : (s.contexts.push c)[s.contexts.size]? = some c := Array.getElem?_push_size
    refine ⟨shows', .of_same rfl rfl, [(s.contexts.size, c)], .inr ⟨_, rfl, size.symm⟩, ?_⟩
    refine leaves _ _ c root outer _ ⟨rfl, ?_⟩ shows'.context
    intro f mem
    rcases List.mem_cons.mp mem with rfl | mem
    · exact ⟨c.line, new⟩
    · exact shows'.has f mem
  unseen same s := .of_same (same s).contexts (same s).futures (same s).context
  newCoroutine _ _ := .of_same rfl rfl rfl
  closeCoroutine id s := by
    rw [Store.run_closeCoroutine]
    split <;> exact .of_same rfl rfl rfl
  newGenerator _ _ := .of_same rfl rfl rfl
  newFuture s := s.stays_pushFuture {} nofun
  newTask coroutine report s := by
    refine s.stays_pushFuture _ ?_
    rintro _ ⟨⟩
    rfl
  modifyFuture id _ _ _ context s := Store.stays_modifyFuture id context s
  wakes := trivial
  cancels := trivial
  complete id p _ s := s.stays_completed id p
  setStreams _ _ := .of_same rfl rfl rfl
  await body id := (Nesting.runsCoroutines.awaitCoroutine body id).run
  main body id thrown := (Nesting.runsCoroutines.taskMain body id thrown).run
  yield generator id := (Nesting.runsCoroutines.nextYielded generator id).run

end StreamTemplate
