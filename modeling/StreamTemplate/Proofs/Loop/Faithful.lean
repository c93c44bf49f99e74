import StreamTemplate.Proofs.Loop.Steady

/-!
# Code that goes on as it began

Coroutines keep their code, tasks keep their coroutines, and no code that runs brings a task to a result:
all it brings futures to is cancellation, a fault, or nothing at all, which is how waiting pulls are woken.
A generator that converts the items of an iterable goes on to do so. This last point takes more than a look
at what is done at once: a generator that is asked for an item gets its body back when it yields, which may
be much later. So it is followed how far a process has met the generators `D` as they should be, each of
them converting as it is to as soon as it is there.
-/

namespace StreamTemplate

/-- A generator, and how it is to convert the items that it goes through. -/
structure Converter where
  generator : Nat
  conversion : Conversion

/-- What goes on converting items in this way, or is over. -/
def GeneratorBody.Converts (conversion : Conversion) : GeneratorBody → Prop
  | .convert _ _ own => own = conversion
  | .finished => True
  | .script _ => False

/-- What code may bring futures to, other than by ending a task. -/
def Progress.Harmless (p : Progress) : Prop :=
  ∀ v, p = .finished v → v = .none

namespace Store

/-- The coroutine that a task runs. -/
def coroutineOf (s : Store) (t : Nat) : Option Nat :=
  (s.task? t).map (·.coroutine)

/-- What a coroutine does. -/
def bodyOf (s : Store) (c : Nat) : Option Body :=
  (s.coroutines[c]?).map (·.body)

theorem Grows.bodyOf {s s' : Store} (grows : s.Grows s') {c : Nat} {b : Body}
    (body : s.bodyOf c = some b) : s'.bodyOf c = some b := by
  obtain ⟨k, there, rfl⟩ := Option.map_eq_some_iff.mp body
  obtain ⟨k', there', becomes⟩ := grows.coroutine c k there
  exact Option.map_eq_some_iff.mpr ⟨k', there', becomes.body⟩

/-- The generator is there and converts as it is to. -/
def Converting (s : Store) (i : Converter) : Prop :=
  ∃ g, s.generators[i.generator]? = some g ∧ g.body.Converts i.conversion

variable {D : Converter → Prop} {s s' s'' : Store}

/-- The generators `D` convert as they are to, as far as they are there. -/
def Met (D : Converter → Prop) (s : Store) : Prop :=
  ∀ i, D i → s.generators.size ≤ i.generator ∨ s.Converting i

/-- From `s` to `s'` tasks and coroutines stay what they are, and no future comes to a result. -/
structure Kept (s s' : Store) : Prop where
  futures : s.futures.size ≤ s'.futures.size
  generators : s.generators.size ≤ s'.generators.size
  coroutineOf : ∀ t < s.futures.size, s'.coroutineOf t = s.coroutineOf t
  bodyOf : ∀ c b, s.bodyOf c = some b → s'.bodyOf c = some b

/-- From `s` to `s'` no future comes to a result but to nothing at all. -/
def Quiet (s s' : Store) : Prop :=
  ∀ t v, s'.progress t = .finished v → s.progress t = .finished v ∨ v = .none

/-- What code does that goes on as it began. -/
structure Keeps (D : Converter → Prop) (s s' : Store) : Prop extends s.Kept s' where
  quiet : s.Quiet s'
  converting : ∀ i, D i → s.Converting i → s'.Converting i

namespace Kept

theorem of_same (futures : s'.futures = s.futures) (generators : s'.generators = s.generators)
    (coroutines : s'.coroutines = s.coroutines) : s.Kept s' where
  futures := Nat.le_of_eq (congrArg _ futures.symm)
  generators := Nat.le_of_eq (congrArg _ generators.symm)
  coroutineOf t _ := by rw [Store.coroutineOf, Store.task?, futures]; rfl
  bodyOf c b body := by rwa [Store.bodyOf, coroutines]

theorem trans (h : s.Kept s') (h' : s'.Kept s'') : s.Kept s'' where
  futures := Nat.le_trans h.futures h'.futures
  generators := Nat.le_trans h.generators h'.generators
  coroutineOf t lt :=
    (h'.coroutineOf t (Nat.lt_of_lt_of_le lt h.futures)).trans (h.coroutineOf t lt)
  bodyOf c b body := h'.bodyOf c b (h.bodyOf c b body)

theorem of_grows (grows : s.Grows s') (generators : s.generators.size ≤ s'.generators.size) :
    s.Kept s' where
  futures := grows.futures
  generators := generators
  coroutineOf _ lt := grows.task?_coroutine lt
  bodyOf _ _ body := Grows.bodyOf grows body

theorem completed (s : Store) (w : Nat) (p : Progress) : s.Kept (s.completed w p) where
  futures := Nat.le_of_eq (size_completed ..).symm
  generators := Nat.le_of_eq (congrArg _ (Leaves.completed s w p).generators.symm)
  coroutineOf t _ := by
    rw [Store.coroutineOf, task?_completed]
    rfl
  bodyOf c b body := by rwa [Store.bodyOf, coroutines_completed]

end Kept

theorem progress_completed_ne {w t : Nat} (ne : w ≠ t) (p : Progress) :
    (s.completed w p).progress t = s.progress t := by
  rw [completed_eq]
  split
  · rfl
  · rw [progress, Array.getElem?_modify, if_neg ne]
    rfl

namespace Quiet

theorem of_progress (same : ∀ t, s'.progress t = s.progress t) : s.Quiet s' :=
  fun t _ finished => .inl ((same t).symm.trans finished)

theorem of_same (futures : s'.futures = s.futures) : s.Quiet s' :=
  of_progress fun t => by rw [progress, futures]; rfl

theorem trans (h : s.Quiet s') (h' : s'.Quiet s'') : s.Quiet s'' :=
  fun t v finished => (h' t v finished).elim (h t v) .inr

/-- What is new has come to no result yet. -/
theorem push {f : Future} (pending : f.progress = .pending) (s : Store) :
    s.Quiet { s with futures := s.futures.push f } := by
  intro t v finished
  rcases Nat.lt_trichotomy t s.futures.size with lt | rfl | gt
  · refine .inl ?_
    rwa [progress, Array.getElem?_push_lt lt, ← Array.getElem?_eq_getElem lt] at finished
  · rw [progress, Array.getElem?_push_size] at finished
    cases pending.symm.trans finished
  · have none : (s.futures.push f).size ≤ t := by
      rw [Array.size_push]
      omega
    rw [progress, Array.getElem?_eq_none none] at finished
    cases finished

theorem completed (s : Store) (w : Nat) {p : Progress} (harmless : p.Harmless) :
    s.Quiet (s.completed w p) := by
  intro t v finished
  by_cases same : w = t
  · subst same
    have there := lt_of_finished finished
    rw [size_completed] at there
    rw [progress_completed there] at finished
    exact .inr (harmless v finished)
  · rw [progress_completed_ne same] at finished
    exact .inl finished

end Quiet

namespace Keeps

theorem of_quiet (kept : s.Kept s') (quiet : s.Quiet s')
    (generators : ∀ (i : Nat) g, s.generators[i]? = some g → s'.generators[i]? = some g) :
    s.Keeps D s' where
  toKept := kept
  quiet := quiet
  converting := fun i _ ⟨g, there, converts⟩ => ⟨g, generators i.generator g there, converts⟩

theorem of_same (futures : s'.futures = s.futures) (generators : s'.generators = s.generators)
    (coroutines : s'.coroutines = s.coroutines) : s.Keeps D s' :=
  .of_quiet (.of_same futures generators coroutines) (.of_same futures) fun i g there => by
    rw [generators, there]

theorem of_grows (grows : s.Grows s') (quiet : s.Quiet s')
    (generators : s'.generators = s.generators) : s.Keeps D s' :=
  .of_quiet (.of_grows grows (Nat.le_of_eq (congrArg _ generators.symm))) quiet fun i g there => by
    rw [generators, there]

theorem trans (h : s.Keeps D s') (h' : s'.Keeps D s'') : s.Keeps D s'' where
  toKept := h.toKept.trans h'.toKept
  quiet := h.quiet.trans h'.quiet
  converting i known converts := h'.converting i known (h.converting i known converts)

theorem setCoroutine (s : Store) (c : Nat) (state : CoroutineState) :
    s.Keeps D (s.setCoroutine c state) :=
  .of_grows (spares_setCoroutine state s not_false) (.of_same rfl) rfl

theorem newGenerator (body : GeneratorBody) (s : Store) :
    s.Keeps D ((Store.newGenerator body).run s).2 := by
  refine .of_quiet ⟨Nat.le_refl _, ?_, fun _ _ => rfl, fun _ _ => id⟩ (.of_same rfl) fun i g there => ?_
  · exact Nat.le_of_lt (Nat.lt_of_lt_of_eq (Nat.lt_succ_self _) (Array.size_push ..).symm)
  · show (s.generators.push _)[i]? = some g
    have lt := (Array.getElem?_eq_some_iff.mp there).1
    rw [Array.getElem?_push_lt lt, ← Array.getElem?_eq_getElem lt, there]

theorem completed (s : Store) (w : Nat) {p : Progress} (harmless : p.Harmless) :
    s.Keeps D (s.completed w p) := by
  refine .of_quiet (.completed s w p) (.completed s w harmless) fun i g there => ?_
  rw [(Leaves.completed s w p).generators, there]

end Keeps

/-- Generators that convert as they are to are met as they should be. -/
theorem Met.of_converting (h : ∀ i, D i → s.Converting i) : s.Met D :=
  fun i known => .inr (h i known)

end Store

/-! ### Processes -/

namespace Process

variable {α β : Type} {D : Converter → Prop} {P Q : α → Prop} {met met' : Prop} {s s' : Store}

/-- Going on from a store, a process goes on as it began, and its result has a property. What this says
of the generators `D` holds as long as they are met as they should be, which is so up to now if `met`. -/
def Faithful (D : Converter → Prop) (P : α → Prop) : Process Store α → Prop → Store → Prop
  | done a, met, _ => met → P a
  | stuck, _, _ => True
  | act x k, met, s => s.Kept (x.run s).2 ∧ s.Quiet (x.run s).2 ∧
      (met → ∀ i, D i → s.Converting i → (x.run s).2.Converting i) ∧
      (k (x.run s).1).Faithful D P (met ∧ (x.run s).2.Met D) (x.run s).2
  | wait _ k, met, _ => ∀ thrown s', (k thrown).Faithful D P (met ∧ s'.Met D) s'

namespace Faithful

theorem act {γ : Type} {x : StateM Store γ} {k : γ → Process Store α} (keeps : s.Keeps D (x.run s).2)
    (rest : (k (x.run s).1).Faithful D P (met ∧ (x.run s).2.Met D) (x.run s).2) :
    (Process.act x k).Faithful D P met s :=
  ⟨keeps.toKept, keeps.quiet, fun _ => keeps.converting, rest⟩

theorem mono {p : Process Store α} (h : p.Faithful D P met s) (sub : met' → met)
    (post : ∀ a, P a → Q a) : p.Faithful D Q met' s := by
  induction p generalizing met met' s with
  | done a => exact fun ok => post a (h (sub ok))
  | stuck => trivial
  | act x k ih =>
    obtain ⟨kept, quiet, converting, rest⟩ := h
    exact ⟨kept, quiet, fun ok => converting (sub ok), ih _ rest (And.imp_left sub)⟩
  | wait w k ih => exact fun thrown s' => ih _ (h thrown s') (And.imp_left sub)

theorem bind {p : Process Store α} {f : α → Process Store β} {Q : β → Prop}
    (h : p.Faithful D P met s) (now : met → s.Met D)
    (next : ∀ a (met' : Prop) s', (met' → met) → (met' → s'.Met D) → (met' → P a) →
      (f a).Faithful D Q met' s') :
    (p >>= f).Faithful D Q met s := by
  induction p generalizing met s with
  | done a => exact next a met s id now h
  | stuck => trivial
  | act x k ih =>
    obtain ⟨kept, quiet, converting, rest⟩ := h
    exact ⟨kept, quiet, converting, ih _ rest And.right fun a met' s' so => next a met' s' (so · |>.1)⟩
  | wait w k ih =>
    exact fun thrown s' => ih _ (h thrown s') And.right
      fun a met' s' so => next a met' s' (so · |>.1)

/-- What a process ends in for whatever reason, it ends in. -/
theorem ends {p : Process Store α} (h : p.Faithful D P met s) (post : p.Ends Q) :
    p.Faithful D (fun a => P a ∧ Q a) met s := by
  induction p generalizing met s with
  | done a => exact fun ok => ⟨h ok, post⟩
  | stuck => trivial
  | act x k ih =>
    obtain ⟨kept, quiet, converting, rest⟩ := h
    exact ⟨kept, quiet, converting, ih _ rest (post _)⟩
  | wait w k ih => exact fun thrown s' => ih _ (h thrown s') (post thrown)

/-- Running a coroutine does not change what it ends in, but it may be closed meanwhile. -/
theorem superviseCoroutine {P : Except Fault Value → Prop} {c : Nat}
    {outer : Option Nat} {p : Process Store (Except Fault Value)} (h : p.Faithful D P met s)
    (faults : ∀ fault, P (.error fault)) : (superviseCoroutine c outer p).Faithful D P met s := by
  have entered (s : Store) (state : CoroutineState) : s.Keeps D (s.setCoroutine c state) :=
    .setCoroutine s c state
  induction p generalizing met s with
  | done r =>
    refine .act (entered s .closed) fun ok => ?_
    cases r with
    | ok v => exact h ok.1
    | error fault => exact faults _
  | stuck => trivial
  | act x k ih =>
    obtain ⟨kept, quiet, converting, rest⟩ := h
    exact ⟨kept, quiet, converting, ih _ rest⟩
  | wait w k ih =>
    refine .act (entered s _) fun thrown s' => .act (.of_same rfl rfl rfl) ?_
    split
    · exact .act (.of_same rfl rfl rfl) fun _ => faults _
    · refine .act (entered s' .running) (ih thrown ?_)
      exact (h thrown (s'.setCoroutine c .running)).mono (fun ok => ⟨ok.1.1.1.1, ok.2⟩) fun _ => id

end Faithful

end Process

/-! ### Coroutines that are run -/

namespace Run

variable {α : Type} {D : Converter → Prop} {P : Except Fault α → Prop} {met : Prop} {s : Store}

theorem faithful_get {f : Store → Run α} (hf : (f s).run.Faithful D P (met ∧ s.Met D) s) :
    (Run.act get >>= f).run.Faithful D P met s :=
  .act (.of_same rfl rfl rfl) hf

theorem faithful_setCoroutine {c : Nat} {state : CoroutineState} {f : Unit → Run α}
    (hf : (f ()).run.Faithful D P (met ∧ (s.setCoroutine c state).Met D) (s.setCoroutine c state)) :
    (Run.act (modify fun s => s.setCoroutine c state) >>= f).run.Faithful D P met s :=
  .act (.setCoroutine s c state) hf

theorem faithful_attempt {β : Type} {Q : Except Fault β → Prop} {x : Run β}
    {f : Except Fault β → Run α} (hx : x.run.Faithful D Q met s) (now : met → s.Met D)
    (hf : ∀ r (met' : Prop) s', (met' → met) → (met' → s'.Met D) → (met' → Q r) →
      (f r).run.Faithful D P met' s') :
    (Run.attempt x >>= f).run.Faithful D P met s := by
  have run : (Run.attempt x >>= f).run = x.run >>= fun r => (f r).run := by
    rw [ExceptT.run_bind, attempt, ExceptT.run_mk, map_eq_pure_bind, bind_assoc]
    rfl
  rw [run]
  exact hx.bind now hf

/-- What goes on with a result ends in what it ends in, whatever the result is. -/
theorem ends_bind {β : Type} {Q : Except Fault β → Prop} (x : Run α) {f : α → Run β}
    (faults : ∀ fault, Q (.error fault)) (next : ∀ a, (f a).run.Ends Q) :
    (x >>= f).run.Ends Q := by
  rw [ExceptT.run_bind]
  refine (Process.ends_true x.run).bind fun r _ => ?_
  cases r with
  | ok a => exact next a
  | error fault => exact faults fault

end Run

section

variable {e : Engine} {D : Converter → Prop} {P : Except Fault Value → Prop} {met : Prop} {s : Store}
  {c : Nat} (faults : ∀ fault, P (.error fault))
  (body : ∀ b (met : Prop) s', s.bodyOf c = some b → (met → s'.Met D) →
    (e.body b).run.Faithful D P met s')

include faults body

theorem faithful_runCoroutine : (runCoroutine e c).run.Faithful D P met s := by
  refine Run.faithful_get ?_
  split
  · exact fun _ => faults _
  · next k there =>
    refine Run.faithful_setCoroutine (.superviseCoroutine (body k.body _ _ ?_ And.right) faults)
    rw [Store.bodyOf, there]
    rfl

theorem faithful_awaitCoroutine : (awaitCoroutine e c).run.Faithful D P met s := by
  refine Run.faithful_get ?_
  split
  · exact faithful_runCoroutine faults body
  · exact fun _ => faults _
  · exact fun _ => faults _
  · exact fun _ => faults _

omit body in
theorem faithful_joinCoroutine (rounds : Nat) : (joinCoroutine c rounds).run.Faithful D P met s := by
  induction rounds generalizing met s with
  | zero => trivial
  | succ rounds ih =>
    refine Run.faithful_get ?_
    split
    · intro thrown s'
      cases thrown with
      | none => exact ih
      | some fault => exact Run.faithful_setCoroutine fun _ => faults _
    · exact fun _ => faults _
    · exact fun _ => faults _

/-- A task ends in what the body of its coroutine ends in, or in a fault. -/
theorem faithful_taskMain (thrown : Option Fault) :
    (taskMain e c thrown).run.Faithful D P met s := by
  refine Run.faithful_get ?_
  split
  · exact faithful_runCoroutine faults body
  · exact Run.faithful_setCoroutine fun _ => faults _
  · exact Run.faithful_setCoroutine fun _ => faults _
  · exact faithful_joinCoroutine faults _
  · exact fun _ => faults _
  · exact fun _ => faults _

end

/-! ### Generators that are asked for an item -/

/-- A generator that converts items goes on to do so. -/
theorem ends_runGenerator (e : Engine) (body : GeneratorBody) :
    (runGenerator e body).run.Ends fun r => ∀ conversion, body.Converts conversion →
      ∀ v body', r = .ok (some (v, body')) → body'.Converts conversion := by
  have faults {body : GeneratorBody} (fault : Fault) (conversion : Conversion) :
      body.Converts conversion → ∀ v body',
        (Except.error fault : Except Fault (Option (Value × GeneratorBody))) =
          .ok (some (v, body')) → body'.Converts conversion :=
    fun _ _ _ same => nomatch same
  cases body with
  | finished => exact fun _ _ v body' same => nomatch same
  | script steps => exact (Process.ends_true _).mono fun _ _ _ converts => converts.elim
  | convert iterable iterator own =>
    unfold runGenerator
    dsimp -zeta only
    extract_lets goes
    have goes (it : Value) : (goes it).run.Ends fun r => ∀ conversion,
        (GeneratorBody.convert iterable iterator own).Converts conversion →
          ∀ v body', r = .ok (some (v, body')) → body'.Converts conversion := by
      refine Run.ends_bind _ faults fun next => ?_
      cases next with
      | none => exact fun _ _ v body' same => nomatch same
      | some item =>
        refine Run.ends_bind _ faults fun v conversion converts v' body' same => ?_
        cases same
        exact converts
    cases iterator with
    | some iterator => exact goes iterator
    | none => exact Run.ends_bind _ faults goes

theorem Store.Converting.setGenerator {s : Store} {i : Converter} {j : Nat} {g : Generator}
    (h : s.Converting i) (converts : j = i.generator → g.body.Converts i.conversion) :
    (s.setGenerator j g).Converting i := by
  obtain ⟨i, conversion⟩ := i
  obtain ⟨g', there, kept⟩ := h
  by_cases same : j = i
  · subst same
    refine ⟨g, ?_, converts rfl⟩
    show (s.generators.setIfInBounds j g)[j]? = _
    rw [Array.getElem?_setIfInBounds_self_of_lt (Array.getElem?_eq_some_iff.mp there).1]
  · refine ⟨g', ?_, kept⟩
    show (s.generators.setIfInBounds j g)[i]? = _
    rw [Array.getElem?_setIfInBounds_ne same, there]

theorem Store.kept_setGenerator (s : Store) (i : Nat) (g : Generator) :
    s.Kept (s.setGenerator i g) where
  futures := Nat.le_refl _
  generators := Nat.le_of_eq Array.size_setIfInBounds.symm
  coroutineOf _ _ := rfl
  bodyOf _ _ body := body

/-- An item that a generator yields is as it should be, if all that generators yield is that convert so. -/
theorem faithful_nextYielded {e : Engine} {D : Converter → Prop} {V : Conversion → Value → Prop}
    {met : Prop} {s : Store}
    (generator : ∀ body (met : Prop) s, (met → s.Met D) → (runGenerator e body).run.Faithful D
      (fun r => ∀ conversion, body.Converts conversion →
        ∀ v body', r = .ok (some (v, body')) → V conversion v) met s) (i : Nat) :
    (nextYielded e i).run.Faithful D
      (fun r => ∀ conversion, D ⟨i, conversion⟩ → ∀ v, r = .ok v → V conversion v) met s := by
  have faults (fault : Fault) (conversion : Conversion) : D ⟨i, conversion⟩ →
      ∀ v, (Except.error fault : Except Fault Value) = .ok v → V conversion v :=
    fun _ _ same => nomatch same
  refine Run.faithful_get ?_
  split
  · exact fun _ => faults _
  · next g there =>
    split
    · exact fun _ => faults _
    · have converts (ok : s.Met D) {conversion : Conversion} (known : D ⟨i, conversion⟩) :
          g.body.Converts conversion := by
        rcases ok _ known with absent | ⟨g', there', converts⟩
        · rw [Array.getElem?_eq_none absent] at there
          cases there
        · cases there.symm.trans there'
          exact converts
      have here {j : Converter} (known : D j) (same : i = j.generator) : D ⟨i, j.conversion⟩ := by
        subst same
        exact known
      refine ⟨s.kept_setGenerator i _, .of_same rfl, fun ok j known held => ?_, ?_⟩
      · exact held.setGenerator fun same => converts ok.2 (here known same)
      refine Run.faithful_attempt ((generator g.body _ _ And.right).ends (ends_runGenerator e g.body))
        And.right fun halt met' s' so now halted => ?_
      refine ⟨s'.kept_setGenerator i _, .of_same rfl, fun ok j known held => ?_, ?_⟩
      · refine held.setGenerator fun same => ?_
        have goesOn := (halted ok).2 _ (converts (so ok).1.2 (here known same))
        split
        · exact goesOn _ _ rfl
        · trivial
      · dsimp only
        split
        · rintro ok conversion known v' ⟨⟩
          exact (halted ok.1).1 _ (converts (so ok.1).1.2 known) _ _ rfl
        · exact fun _ => faults _
        · exact fun _ => faults _

/-! ### The conduct -/

theorem Store.Keeps.modifyFuture {D : Converter → Prop} {f : Future → Future} (w : Nat)
    (progress : ∀ future, (f future).progress = future.progress)
    (coroutine : ∀ future, (f future).task.map (·.coroutine) = future.task.map (·.coroutine))
    (s : Store) : s.Keeps D ((Store.modifyFuture w f).run s).2 := by
  refine .of_quiet ⟨?_, Nat.le_refl _, fun t _ => ?_, fun _ _ => id⟩ ?_ fun _ _ => id
  · exact Nat.le_of_eq Array.size_modify.symm
  · show ((Array.modify s.futures w _)[t]?.bind (·.task)).map (·.coroutine) = _
    unfold Store.coroutineOf Store.task?
    rw [Array.getElem?_modify]
    split
    · cases s.futures[t]? with
      | none => rfl
      | some f => exact coroutine f
    · rfl
  · exact .of_progress fun t => Store.progress_modifyFuture progress w t s

/-- To go on as one began. -/
def Conduct.faithful (D : Converter → Prop) : ConductGiving Progress.Harmless where
  act x := ∀ s : Store, s.Keeps D (x.run s).2
  run p := ∀ (met : Prop) s, (met → s.Met D) → p.Faithful D (fun _ => True) met s
  within _ _ p := ∀ (met : Prop) s, (met → s.Met D) → p.Faithful D (fun _ => True) met s
  leaves _ _ _ p := ∀ (met : Prop) s, (met → s.Met D) → p.Faithful D (fun _ => True) met s
  act_pure _ _ := .of_same rfl rfl rfl
  act_bind hx hf s := (hx s).trans (hf _ _)
  run_done _ _ _ _ _ := trivial
  run_stuck _ _ _ := trivial
  run_act hx _ s _ := .act (hx s) fun _ => trivial
  run_wait goesOn _ _ _ := fun thrown s' => goesOn thrown _ s' And.right
  run_bind hp hf _ s now := (hp _ s now).bind now fun a met' s' _ now' _ => hf a met' s' now'
  within_run hp := hp
  within_bind hp hf _ s now := (hp _ s now).bind now fun a met' s' _ now' _ => hf a met' s' now'
  setLine _ _ _ _ _ := .act (.of_same rfl rfl rfl) fun _ => trivial
  leaves_within hp hf _ s now := (hp _ s now).bind now fun a met' s' _ now' _ => hf a met' s' now'
  leaves_back hp _ _ _ := .act (.of_same rfl rfl rfl) (hp _ _ And.right)
  newContext _ _ hf _ _ _ :=
    .act (.of_same rfl rfl rfl) (.act (.of_same rfl rfl rfl) (.act (.of_same rfl rfl rfl)
      (hf _ _ _ _ And.right)))
  unseen same s := .of_same (same s).futures (same s).generators (same s).coroutines
  newCoroutine body s := .of_grows (Store.spares_newCoroutine body s) (.of_same rfl) rfl
  closeCoroutine c s := by
    rw [Store.run_closeCoroutine]
    split
    · exact .of_same rfl rfl rfl
    · exact .setCoroutine s c .closed
  newGenerator body s := .newGenerator body s
  newFuture s := .of_grows (Store.spares_newFuture s) (.push rfl s) rfl
  newTask c report s := .of_grows (Store.spares_newTask c report s) (.push rfl s) rfl
  modifyFuture w _ progress coroutine _ s := .modifyFuture w progress coroutine s
  wakes v same := (Progress.finished.inj same).symm
  cancels _ same := nomatch same
  complete w _ harmless s := .completed s w harmless
  setStreams _ _ := .of_same rfl rfl rfl
  await body c _ _ now := faithful_awaitCoroutine (fun _ => trivial) fun b _ s' _ => body b _ s'
  main body c thrown _ _ now :=
    faithful_taskMain (fun _ => trivial) (fun b _ s' _ => body b _ s') thrown
  yield generator i _ _ _ := by
    refine (faithful_nextYielded (V := fun _ _ => True) (fun body met s now => ?_) i).mono id
      fun _ _ => trivial
    exact (generator body met s now).mono id fun _ _ _ _ _ _ _ => trivial

end StreamTemplate
