import Mathlib.Tactic.SplitIfs
import StreamTemplate.Loop.Run
import StreamTemplate.Proofs.Loop.Amid
import StreamTemplate.Proofs.Loop.Steady

/-!
# What awaiting comes to

Running code comes to a value among others that do what they like while it waits. Each clause here says what
it takes for one way of awaiting or of asking for an item: a future is finished, a coroutine is still to run
and its code comes to the value, a generator gets an item and converts it. A coroutine shows others its
state, and a generator what it has still to do; what they do is told as if they saw it running all the time,
so that the clauses speak of the same others inside and around.
-/

namespace StreamTemplate

variable {J : Store → Store → Prop} {α β : Type} {s s' : Store}

namespace Run

/-- Complete runs of running code to a value, among others. -/
def ComesTo (J : Store → Store → Prop) (x : Run α) (s : Store) (a : α) (s' : Store) : Prop :=
  x.run.RunsAmid J s (.ok a) s'

/-- Complete runs of running code to a fault, among others. -/
def Raises (J : Store → Store → Prop) (x : Run α) (s : Store) (fault : Fault) (s' : Store) : Prop :=
  x.run.RunsAmid J s (.error fault) s'

/-! ### The ways in which code is put together -/

theorem comesTo_ofExcept {r : Except Fault α} {a : α} :
    (ofExcept r).ComesTo J s a s' ↔ r = .ok a ∧ s' = s := by
  constructor
  · rintro ⟨⟩
    exact ⟨rfl, rfl⟩
  · rintro ⟨rfl, rfl⟩
    exact .done

theorem comesTo_pure {a b : α} : (pure a : Run α).ComesTo J s b s' ↔ a = b ∧ s' = s := by
  refine (comesTo_ofExcept (r := .ok a)).trans (and_congr_left' ?_)
  exact Except.ok.injEq a b ▸ Iff.rfl

theorem not_comesTo_throw {fault : Fault} {a : α} : ¬ (throw fault : Run α).ComesTo J s a s' :=
  fun h => nomatch (comesTo_ofExcept (r := .error fault)).mp h

theorem runsAmid_act {x : Act α} {r : Except Fault α} :
    (act x).run.RunsAmid J s r s' ↔ x.run.run s = (r, s') := by
  constructor
  · intro h
    cases h with
    | act rest =>
      generalize StateT.run x.run s = ran at rest ⊢
      obtain ⟨r, s₁⟩ := ran
      cases rest
      rfl
  · intro ran
    refine .act ?_
    rw [ran]
    exact .done

theorem comesTo_bind {x : Run α} {f : α → Run β} {b : β} : (x >>= f).ComesTo J s b s' ↔
    ∃ a s₁, x.ComesTo J s a s₁ ∧ (f a).ComesTo J s₁ b s' := by
  unfold ComesTo
  rw [ExceptT.run_bind]
  constructor
  · intro h
    obtain ⟨r, s₁, first, rest⟩ := Process.RunsAmid.of_bind h
    cases r with
    | ok a => exact ⟨a, s₁, first, rest⟩
    | error => cases rest
  · rintro ⟨a, s₁, first, rest⟩
    exact first.bind rest

theorem runsAmid_attempt {x : Run α} {f : Except Fault α → Run β} {r : Except Fault β} :
    (attempt x >>= f).run.RunsAmid J s r s' ↔
      ∃ a s₁, x.run.RunsAmid J s a s₁ ∧ (f a).run.RunsAmid J s₁ r s' := by
  have run : (attempt x >>= f).run = x.run >>= fun a => (f a).run := by
    rw [ExceptT.run_bind, attempt, ExceptT.run_mk, map_eq_pure_bind, bind_assoc]
    rfl
  rw [run]
  refine ⟨Process.RunsAmid.of_bind, ?_⟩
  rintro ⟨_, _, first, rest⟩
  exact first.bind rest

theorem comesTo_attempt {x : Run α} {f : Except Fault α → Run β} {b : β} :
    (attempt x >>= f).ComesTo J s b s' ↔
      ∃ r s₁, x.run.RunsAmid J s r s₁ ∧ (f r).ComesTo J s₁ b s' :=
  runsAmid_attempt

theorem comesTo_wait {w : Wait} : (wait w).ComesTo J s () s' ↔ J s s' := by
  constructor
  · intro h
    cases h with
    | @wait _ _ thrown _ _ _ _ others rest =>
      cases thrown with
      | none =>
        cases rest
        exact others
      | some => cases rest
  · exact fun others => @Process.RunsAmid.wait _ _ _ _ _ none _ _ _ _ others .done

theorem runsAmid_get {f : Store → Run β} {r : Except Fault β} :
    (act get >>= f).run.RunsAmid J s r s' ↔ (f s).run.RunsAmid J s r s' := by
  constructor
  · intro h
    cases h with
    | act rest => exact rest
  · intro rest
    show Process.RunsAmid J (.act _ _) s r s'
    exact .act rest

theorem comesTo_get {f : Store → Run β} {b : β} :
    (act get >>= f).ComesTo J s b s' ↔ (f s).ComesTo J s b s' :=
  runsAmid_get

theorem runsAmid_modify {g : Store → Store} {f : Unit → Run β} {r : Except Fault β} :
    (act (modify g) >>= f).run.RunsAmid J s r s' ↔ (f ()).run.RunsAmid J (g s) r s' := by
  constructor
  · intro h
    cases h with
    | act rest => exact rest
  · intro rest
    show Process.RunsAmid J (.act _ _) s r s'
    exact .act rest

theorem comesTo_modify {g : Store → Store} {f : Unit → Run β} {b : β} :
    (act (modify g) >>= f).ComesTo J s b s' ↔ (f ()).ComesTo J (g s) b s' :=
  runsAmid_modify

theorem runsAmid_view {g : Heap → Except Fault α} {r : Except Fault α} :
    (act (Act.view g)).run.RunsAmid J s r s' ↔ g s.heap = r ∧ s' = s :=
  runsAmid_act.trans ⟨fun same => ⟨congrArg Prod.fst same, (congrArg Prod.snd same).symm⟩,
    fun ⟨made, same⟩ => Prod.ext made same.symm⟩

theorem comesTo_view {g : Heap → Except Fault α} {a : α} :
    (act (Act.view g)).ComesTo J s a s' ↔ g s.heap = .ok a ∧ s' = s :=
  runsAmid_view

end Run

open Run

/-! ### Futures -/

theorem deliver_eq_ok {p : Progress} {v : Value} : p.deliver = .ok v ↔ p = .finished v := by
  cases p <;> simp [Progress.deliver]

/-- A future that is awaited is finished, at once or after a wait; one that has been gone through while it was
pending cannot be waited for. -/
theorem comesTo_awaitFuture {id : Nat} {v : Value} : (awaitFuture id).ComesTo J s v s' ↔
    (if s.isPending id then s.isClaimed id = false ∧ J s s' else s' = s) ∧
      s'.progress id = .finished v := by
  have delivers {s : Store} :
      (act get >>= fun s => Run.ofExcept (s.progress id).deliver).ComesTo J s v s' ↔
        s' = s ∧ s'.progress id = .finished v := by
    rw [comesTo_get, comesTo_ofExcept, deliver_eq_ok]
    exact ⟨fun ⟨done, same⟩ => ⟨same, same ▸ done⟩, fun ⟨same, done⟩ => ⟨same ▸ done, same⟩⟩
  unfold awaitFuture
  rw [comesTo_get]
  dsimp only
  split_ifs with pending claimed
  · simp only [claimed, comesTo_bind, not_comesTo_throw, false_and, exists_false, Bool.true_eq_false]
  · have unclaimed : s.isClaimed id = false := Bool.eq_false_iff.mpr claimed
    rw [comesTo_bind]
    simp only [delivers, unclaimed, true_and]
    constructor
    · rintro ⟨⟨⟩, _, waited, rfl, finished⟩
      exact ⟨comesTo_wait.mp waited, finished⟩
    · rintro ⟨others, finished⟩
      exact ⟨(), s', comesTo_wait.mpr others, rfl, finished⟩
  · exact delivers

/-! ### Coroutines -/

/-- What others do that see a coroutine running all the time: they leave it unclosed. -/
def Store.Around (J : Store → Store → Prop) (c : Nat) (s s' : Store) : Prop :=
  J (s.setCoroutine c .running) (s'.setCoroutine c .running) ∧ s'.coroutineState c ≠ .closed

/-- What they do for the code that the coroutine runs: they leave it running. -/
def Store.Within (J : Store → Store → Prop) (c : Nat) (s s' : Store) : Prop :=
  J (s.setCoroutine c .running) s' ∧ s'.coroutineState c = .running

section

variable {c : Nat} {outer : Option Nat} {v : Value}

theorem Store.setCoroutine_setCoroutine (s : Store) (c : Nat) (first second : CoroutineState) :
    (s.setCoroutine c first).setCoroutine c second = s.setCoroutine c second := by
  unfold setCoroutine
  congr 1
  apply Array.ext_getElem?
  intro i
  simp only [Array.getElem?_modify]
  split_ifs
  · cases s.coroutines[i]? <;> rfl
  · rfl

theorem Store.setCoroutine_of_running (running : s.coroutineState c = .running) :
    s.setCoroutine c .running = s := by
  have lt := Pull.lt_of_running running
  unfold setCoroutine
  congr 1
  apply Array.ext_getElem?
  intro i
  rw [Array.getElem?_modify]
  split_ifs with same
  · subst same
    rw [coroutineState, Array.getElem?_eq_getElem lt] at running
    rw [Array.getElem?_eq_getElem lt, Option.map_some, ← show s.coroutines[c].state = .running from running]
  · rfl

theorem Store.around_setCoroutine (state : CoroutineState) :
    (s.setCoroutine c state).Around J c s' ↔ s.Around J c s' := by
  unfold Around
  rw [setCoroutine_setCoroutine]

/-- To leave a coroutine running is to leave it unclosed, and then it runs on. -/
theorem Store.within_iff : s.Within J c s' ↔ ∃ s₁, s.Around J c s₁ ∧ s' = s₁.setCoroutine c .running := by
  constructor
  · rintro ⟨others, running⟩
    have same := setCoroutine_of_running running
    exact ⟨s', ⟨by rwa [same], by rw [running]; nofun⟩, same.symm⟩
  · rintro ⟨s₁, ⟨others, unclosed⟩, rfl⟩
    exact ⟨others, Pull.coroutineState_setCoroutine (lt_of_not_closed unclosed)⟩

/-- When its wait is over, a coroutine that was not closed runs on. -/
theorem runsAmid_woken {J : Store → Store → Prop} {p : Process Store (Except Fault Value)} :
    (Process.act get fun s => if s.coroutineState c = .closed then
        .act (Store.setContext outer) fun () => .done (.error spent)
      else .act (modify (·.setCoroutine c .running)) fun () => p).RunsAmid J s (.ok v) s' ↔
      s.coroutineState c ≠ .closed ∧ p.RunsAmid J (s.setCoroutine c .running) (.ok v) s' := by
  constructor
  · intro h
    cases h with
    | act rest =>
      change Process.RunsAmid J (if s.coroutineState c = .closed then _ else _) s _ _ at rest
      split_ifs at rest with closed
      · cases rest with
        | act rest => cases rest
      · cases rest with
        | act rest => exact ⟨closed, rest⟩
  · rintro ⟨unclosed, rest⟩
    refine .act ?_
    change Process.RunsAmid J (if s.coroutineState c = .closed then _ else _) s _ _
    rw [if_neg unclosed]
    exact .act rest

/-- The code of a coroutine comes to what it comes to by itself. -/
theorem runsAmid_superviseCoroutine {p : Process Store (Except Fault Value)} :
    (superviseCoroutine c outer p).RunsAmid (Store.Around J c) s (.ok v) s' ↔
      ∃ s₁, p.RunsAmid (Store.Within J c) s (.ok v) s₁ ∧ s' = s₁.setCoroutine c .closed := by
  induction p generalizing s with
  | done r =>
    constructor
    · intro h
      cases h with
      | act rest =>
        generalize ended : r.mapError leavingCoroutine = r' at rest
        cases rest
        cases r with
        | ok u =>
          cases ended
          exact ⟨s, .done, rfl⟩
        | error => cases ended
    · rintro ⟨s₁, ⟨⟩, rfl⟩
      exact .act .done
  | stuck => exact ⟨nofun, fun ⟨_, h, _⟩ => nomatch h⟩
  | act x k ih =>
    constructor
    · intro h
      cases h with
      | act rest =>
        obtain ⟨s₁, rest, same⟩ := (ih _).mp rest
        exact ⟨s₁, .act rest, same⟩
    · rintro ⟨s₁, h, same⟩
      cases h with
      | act rest => exact .act ((ih _).mpr ⟨s₁, rest, same⟩)
  | wait w k ih =>
    constructor
    · intro h
      cases h with
      | act rest =>
        cases rest with
        | @wait _ _ thrown _ s₁ _ _ others rest =>
          obtain ⟨-, rest⟩ := runsAmid_woken.mp rest
          obtain ⟨s₂, rest, same⟩ := (ih thrown).mp rest
          have around := (Store.around_setCoroutine _).mp others
          exact ⟨s₂, .wait (Store.within_iff.mpr ⟨s₁, around, rfl⟩) rest, same⟩
    · rintro ⟨s₁, h, same⟩
      cases h with
      | @wait _ _ thrown _ s₂ _ _ others rest =>
        obtain ⟨s₃, around, rfl⟩ := Store.within_iff.mp others
        have others := (Store.around_setCoroutine (.suspended w.future?)).mpr around
        refine .act (@Process.RunsAmid.wait _ _ _ _ _ thrown _ _ _ _ others ?_)
        exact runsAmid_woken.mpr ⟨around.2, (ih thrown).mpr ⟨s₁, rest, same⟩⟩

/-- A coroutine that is run comes to what its body comes to. -/
theorem comesTo_runCoroutine {e : Engine} {k : Coroutine} (known : s.coroutines[c]? = some k) :
    (runCoroutine e c).ComesTo (Store.Around J c) s v s' ↔ ∃ s₁,
      (e.body k.body).ComesTo (Store.Within J c) (s.setCoroutine c .running) v s₁ ∧
        s' = s₁.setCoroutine c .closed := by
  unfold runCoroutine
  rw [comesTo_get, known]
  exact comesTo_modify.trans runsAmid_superviseCoroutine

/-- A coroutine that is awaited has not begun, and is run. -/
theorem comesTo_awaitCoroutine {e : Engine} : (awaitCoroutine e c).ComesTo J s v s' ↔
    s.coroutineState c = .created ∧ (runCoroutine e c).ComesTo J s v s' := by
  unfold awaitCoroutine
  rw [comesTo_get]
  split
  · next created => simp [created]
  · next running => simp [running, not_comesTo_throw]
  · next suspended => simp [suspended, not_comesTo_throw]
  · next closed => simp [closed, not_comesTo_throw]

/-- Who joins in waiting for a coroutine comes to nothing. -/
theorem not_comesTo_joinCoroutine (rounds : Nat) : ¬ (joinCoroutine c rounds).ComesTo J s v s' := by
  induction rounds generalizing s with
  | zero => nofun
  | succ rounds ih =>
    unfold joinCoroutine
    rw [comesTo_get]
    split
    · rw [comesTo_attempt]
      rintro ⟨r, s₁, -, rest⟩
      cases r with
      | ok => exact ih rest
      | error => exact not_comesTo_throw (comesTo_modify.mp rest)
    · exact not_comesTo_throw
    · exact not_comesTo_throw

/-- The task of a coroutine comes to the same as who awaits the coroutine. -/
theorem comesTo_taskMain {e : Engine} : (taskMain e c none).ComesTo J s v s' ↔
    (awaitCoroutine e c).ComesTo J s v s' := by
  rw [comesTo_awaitCoroutine]
  unfold taskMain
  rw [comesTo_get]
  cases s.coroutineState c with
  | created => simp
  | running | closed => simp [not_comesTo_throw]
  | suspended => simp [not_comesTo_joinCoroutine]

/-- The task of a new coroutine comes to what its body comes to. -/
theorem comesTo_taskMain_new {e : Engine} {body : Body} (known : s.coroutines[c]? = some { body }) :
    (taskMain e c none).ComesTo (Store.Around J c) s v s' ↔ ∃ s₁,
      (e.body body).ComesTo (Store.Within J c) (s.setCoroutine c .running) v s₁ ∧
        s' = s₁.setCoroutine c .closed := by
  have created : s.coroutineState c = .created := by
    rw [Store.coroutineState, known]
    rfl
  rw [comesTo_taskMain, comesTo_awaitCoroutine, comesTo_runCoroutine known]
  exact and_iff_right created

/-- What awaits a value and converts what it comes to. -/
theorem comesTo_convert {e : Engine} {part : Value} {conversion : Conversion} :
    ((Body.convert part conversion).run e).ComesTo J s v s' ↔
      ∃ u, (awaitValue e part).ComesTo J s u s' ∧ conversion.apply s'.heap u = .ok v := by
  refine comesTo_bind.trans ⟨fun ⟨u, s₁, awaited, made⟩ => ?_, fun ⟨u, awaited, made⟩ => ?_⟩
  · obtain ⟨made, rfl⟩ := comesTo_view.mp made
    exact ⟨u, awaited, made⟩
  · exact ⟨u, s', awaited, comesTo_view.mpr ⟨made, rfl⟩⟩

end

/-! ### Generators -/

section

variable {e : Engine} {i : Nat} {it : Value} {next : Option Value}

/-- A fault that leaves an asynchronous generator is no sign of its end. -/
theorem not_isA_leavingAsyncGenerator (fault : Fault) :
    ¬ (leavingAsyncGenerator fault).isA .stopAsyncIteration := by
  unfold leavingAsyncGenerator
  split_ifs with first second
  · nofun
  · nofun
  · exact second

/-- An iterator brings an item, or it gives the sign of its end. -/
theorem comesTo_nextOrEnd : (nextOrEnd e it).ComesTo J s next s' ↔
    (∃ v, next = some v ∧ (e.next it).ComesTo J s v s') ∨
      next = none ∧
        ∃ fault, fault.isA .stopAsyncIteration ∧ (e.next it).run.RunsAmid J s (.error fault) s' := by
  unfold nextOrEnd
  rw [comesTo_attempt]
  constructor
  · rintro ⟨r, s₁, asked, rest⟩
    cases r with
    | ok v =>
      obtain ⟨rfl, rfl⟩ := comesTo_pure.mp rest
      exact .inl ⟨v, rfl, asked⟩
    | error fault =>
      dsimp only at rest
      split_ifs at rest with ended
      · obtain ⟨rfl, rfl⟩ := comesTo_pure.mp rest
        exact .inr ⟨rfl, fault, ended, asked⟩
      · exact (not_comesTo_throw rest).elim
  · rintro (⟨v, rfl, asked⟩ | ⟨rfl, fault, ended, asked⟩)
    · exact ⟨_, s', asked, comesTo_pure.mpr ⟨rfl, rfl⟩⟩
    · refine ⟨_, s', asked, ?_⟩
      dsimp only
      rw [if_pos ended]
      exact comesTo_pure.mpr ⟨rfl, rfl⟩

/-- Who asks for an item or the end is given both in the same form. -/
theorem comesTo_itemOrEnd {v : Value} : (itemOrEnd e it).ComesTo J s v s' ↔
    ∃ next, (nextOrEnd e it).ComesTo J s next s' ∧
      v = .tuple (.constant 0 0) [.bool next.isNone, next.getD .none] := by
  refine comesTo_bind.trans ⟨?_, ?_⟩
  · rintro ⟨next, s₁, asked, rest⟩
    cases next <;> obtain ⟨rfl, rfl⟩ := comesTo_pure.mp rest <;> exact ⟨_, asked, rfl⟩
  · rintro ⟨next, asked, rfl⟩
    refine ⟨next, s', asked, ?_⟩
    cases next <;> exact comesTo_pure.mpr ⟨rfl, rfl⟩

/-- What a generator that has halted so has still to do. -/
def GeneratorBody.left (halt : Except Fault (Option (Value × GeneratorBody))) : GeneratorBody :=
  match halt with
  | .ok (some (_, body)) => body
  | _ => .finished

/-- What a generator that has halted so brings. -/
def GeneratorBody.brought : Except Fault (Option (Value × GeneratorBody)) → Except Fault Value
  | .ok (some (v, _)) => .ok v
  | .ok none => .error exhausted
  | .error fault => .error (leavingAsyncGenerator fault)

/-- A generator that is asked runs on, and shows others meanwhile that it does. -/
theorem runsAmid_nextYielded {body : GeneratorBody} {r : Except Fault Value}
    (known : s.generators[i]? = some { body }) :
    (nextYielded e i).run.RunsAmid J s r s' ↔ ∃ halt s₁,
      (runGenerator e body).run.RunsAmid J (s.setGenerator i { body, running := true }) halt s₁ ∧
        r = GeneratorBody.brought halt ∧ s' = s₁.setGenerator i { body := .left halt } := by
  unfold nextYielded
  rw [runsAmid_get, known]
  dsimp only
  rw [if_neg Bool.false_ne_true, runsAmid_modify, runsAmid_attempt]
  refine exists_congr fun halt => exists_congr fun s₁ => and_congr_right fun _ => ?_
  have ended {r' : Except Fault Value} {s₁ : Store} :
      (Run.ofExcept r').run.RunsAmid J s₁ r s' ↔ r = r' ∧ s' = s₁ := by
    refine ⟨fun h => ?_, fun ⟨same, same'⟩ => ?_⟩
    · cases h
      exact ⟨rfl, rfl⟩
    · subst same same'
      exact .done
  rw [runsAmid_modify]
  rcases halt with fault | _ | ⟨v, rest⟩ <;> exact ended

/-- A generator is asked for an item. -/
theorem comesTo_nextOrEnd_generator {e' : Engine} {body : GeneratorBody}
    (asks : e'.next (.process .asyncGenerator i) = nextYielded e i)
    (known : s.generators[i]? = some { body }) :
    (nextOrEnd e' (.process .asyncGenerator i)).ComesTo J s next s' ↔ ∃ halt s₁,
      (runGenerator e body).ComesTo J (s.setGenerator i { body, running := true }) halt s₁ ∧
        next = halt.map (·.1) ∧ s' = s₁.setGenerator i { body := .left (.ok halt) } := by
  rw [comesTo_nextOrEnd, asks]
  simp only [Run.ComesTo, runsAmid_nextYielded known]
  constructor
  · rintro (⟨v, rfl, halt, s₁, ran, brought, rfl⟩ | ⟨rfl, fault, ended, halt, s₁, ran, brought, rfl⟩)
    · rcases halt with fault | _ | ⟨u, rest⟩ <;> cases brought
      exact ⟨_, s₁, ran, rfl, rfl⟩
    · rcases halt with other | _ | ⟨u, rest⟩ <;> cases brought
      · exact absurd ended (not_isA_leavingAsyncGenerator other)
      · exact ⟨_, s₁, ran, rfl, rfl⟩
  · rintro ⟨_ | ⟨v, rest⟩, s₁, ran, rfl, rfl⟩
    · exact .inr ⟨rfl, exhausted, rfl, _, s₁, ran, rfl, rfl⟩
    · exact .inl ⟨v, rfl, _, s₁, ran, rfl, rfl⟩

/-- A value can be gone through asynchronously, and is what that is done with. -/
def Value.Iterates (v : Value) : Prop :=
  v.isAsyncIterable ∧ ∀ id, v ≠ .cell .badAsyncIterable id

theorem Store.iterator_eq_ok {heap : Heap} {v : Value} {notOne : Fault} :
    iterator heap v notOne = .ok it ↔ it = v ∧ ∀ id, v ≠ .cell .badAsyncIterable id := by
  unfold iterator
  split
  · next id =>
    refine ⟨fun h => ?_, fun h => absurd rfl (h.2 id)⟩
    split at h <;> cases h
  · next other =>
    refine ⟨fun h => ⟨(Except.ok.inj h).symm, other⟩, fun h => congrArg _ h.1.symm⟩

theorem comesTo_asyncIterator {v : Value} :
    (asyncIterator v).ComesTo J s it s' ↔ v.Iterates ∧ it = v ∧ s' = s := by
  have rest : (act get >>= fun s => Run.ofExcept
      (Store.iterator s.heap v ValueFault.badAsyncIterator.toFault)).ComesTo J s it s' ↔
      (it = v ∧ ∀ id, v ≠ .cell .badAsyncIterable id) ∧ s' = s := by
    rw [comesTo_get, comesTo_ofExcept, Store.iterator_eq_ok]
  unfold asyncIterator Value.Iterates
  cases iterable : v.isAsyncIterable with
  | true =>
    refine rest.trans ?_
    simp only [true_and]
    exact ⟨fun ⟨⟨same, good⟩, same'⟩ => ⟨good, same, same'⟩, fun ⟨good, same, same'⟩ => ⟨⟨same, good⟩, same'⟩⟩
  | false =>
    simp only [Bool.false_eq_true, false_and, iff_false]
    intro h
    obtain ⟨_, _, refused, -⟩ := comesTo_bind.mp h
    exact not_comesTo_throw refused

/-- What an item is converted to, or the end. -/
inductive Conversion.Item (conversion : Conversion) (heap : Heap) : Option Value → Option Value → Prop
  | ended : Item conversion heap none none
  | item {u v} (made : conversion.apply heap u = .ok v) : Item conversion heap (some u) (some v)

section

variable {part : Value} {conversion : Conversion} {iterator : Option Value}

/-- What is left to do when an item has been asked for. -/
def Conversion.rest (conversion : Conversion) (part : Value) (item : Option Value) : GeneratorBody :=
  if item.isSome then .convert part (some part) conversion else .finished

/-- What a generator that converts the items of an iterable does when it has begun with it. -/
def convertItem (e : Engine) (part : Value) (conversion : Conversion) :
    Run (Option (Value × GeneratorBody)) := do
  match ← nextOrEnd e part with
  | none => return none
  | some item =>
    let v ← Run.act (Act.view (conversion.apply · item))
    return some (v, .convert part (some part) conversion)

theorem comesTo_convertItem {halt : Option (Value × GeneratorBody)} :
    (convertItem e part conversion).ComesTo J s halt s' ↔ ∃ item,
      (nextOrEnd e part).ComesTo J s item s' ∧ conversion.Item s'.heap item (halt.map (·.1)) ∧
        .left (.ok halt) = conversion.rest part item := by
  unfold convertItem
  rw [comesTo_bind]
  constructor
  · rintro ⟨item, s₁, asked, last⟩
    cases item with
    | none =>
      obtain ⟨rfl, rfl⟩ := comesTo_pure.mp last
      exact ⟨none, asked, .ended, rfl⟩
    | some u =>
      obtain ⟨v, s₂, viewed, ended⟩ := comesTo_bind.mp last
      obtain ⟨made, rfl⟩ := comesTo_view.mp viewed
      obtain ⟨rfl, rfl⟩ := comesTo_pure.mp ended
      exact ⟨some u, asked, .item made, rfl⟩
  · rintro ⟨item, asked, converted, left⟩
    refine ⟨item, s', asked, ?_⟩
    rcases halt with _ | ⟨v, body⟩
    · cases converted
      exact comesTo_pure.mpr ⟨rfl, rfl⟩
    · cases converted with
      | item made =>
        cases left
        exact comesTo_bind.mpr ⟨v, s', comesTo_view.mpr ⟨made, rfl⟩, comesTo_pure.mpr ⟨rfl, rfl⟩⟩

/-- A generator that goes through an iterable and converts the items has the iterable asked for its next. -/
theorem comesTo_runGenerator {halt : Option (Value × GeneratorBody)}
    (own : iterator = none ∨ iterator = some part) :
    (runGenerator e (.convert part iterator conversion)).ComesTo J s halt s' ↔
      (iterator = none → part.Iterates) ∧ ∃ item, (nextOrEnd e part).ComesTo J s item s' ∧
        conversion.Item s'.heap item (halt.map (·.1)) ∧ .left (.ok halt) = conversion.rest part item := by
  rcases own with rfl | rfl
  · refine comesTo_bind.trans ⟨?_, fun ⟨iterates, rest⟩ => ?_⟩
    · rintro ⟨it, s₁, begun, rest⟩
      obtain ⟨iterates, rfl, rfl⟩ := comesTo_asyncIterator.mp begun
      exact ⟨fun _ => iterates, comesTo_convertItem.mp rest⟩
    · exact ⟨part, s, comesTo_asyncIterator.mpr ⟨iterates rfl, rfl, rfl⟩, comesTo_convertItem.mpr rest⟩
  · exact comesTo_convertItem.trans ⟨fun rest => ⟨nofun, rest⟩, And.right⟩

/-- Such a generator is asked for an item. -/
theorem comesTo_nextOrEnd_convert {e' : Engine}
    (asks : e'.next (.process .asyncGenerator i) = nextYielded e i)
    (known : s.generators[i]? = some { body := .convert part iterator conversion })
    (own : iterator = none ∨ iterator = some part) :
    (nextOrEnd e' (.process .asyncGenerator i)).ComesTo J s next s' ↔
      (iterator = none → part.Iterates) ∧ ∃ item s₁,
        (nextOrEnd e part).ComesTo J
          (s.setGenerator i { body := .convert part iterator conversion, running := true }) item s₁ ∧
        conversion.Item s₁.heap item next ∧
        s' = s₁.setGenerator i { body := conversion.rest part item } := by
  rw [comesTo_nextOrEnd_generator asks known]
  simp only [comesTo_runGenerator own]
  constructor
  · rintro ⟨halt, s₁, ⟨iterates, item, asked, converted, left⟩, rfl, rfl⟩
    exact ⟨iterates, item, s₁, asked, converted, by rw [left]⟩
  · rintro ⟨iterates, item, s₁, asked, converted, rfl⟩
    let halt : Option (Value × GeneratorBody) := next.map (·, conversion.rest part item)
    have brought : next = halt.map (·.1) := by cases next <;> rfl
    have left : GeneratorBody.left (.ok halt) = conversion.rest part item := by
      cases converted <;> rfl
    exact ⟨halt, s₁, ⟨iterates, item, asked, brought ▸ converted, left⟩, brought, by rw [left]⟩

end

end

end StreamTemplate
