import StreamTemplate.Proofs.Loop.Awaited

/-!
# What sources bring

A stream awaits a source or asks it for items, one after the other, and others act meanwhile. `Source.Brings`
are the values that a source brings so. A coroutine that awaits something and converts the result is a source
that brings what the other would have brought, converted, and so is a generator that goes through something
and converts the items: nothing else tells them apart. The tasks that a stream begins for its sources come to
just these values.
-/

namespace StreamTemplate

/-- What others do while the work of a source waits, and between two requests for an item. -/
structure Others where
  meanwhile : Store → Store → Prop
  between : Store → Store → Prop

/-! ### Values that are awaited -/

/-- What the work comes to that a stream begins for a value. A future or a task is its own work, a coroutine
is run by a task, and for anything else a coroutine is made that awaits it. -/
inductive Value.WorkComesTo (J : Store → Store → Prop) (e : Engine) : Value → Store → Value → Store → Prop
  | own {kind id s u s'} (future : kind = .future ∨ kind = .task)
      (waits : if s.isPending id then J s s' else s' = s) (finished : s'.progress id = .finished u) :
      WorkComesTo J e (.process kind id) s u s'
  | run {c s u s'} (runs : (taskMain e c Option.none).ComesTo J s u s') :
      WorkComesTo J e (.process .coroutine c) s u s'
  | awaited {v s u s'} (plain : ∀ kind id, v ≠ .process kind id)
      (runs : ((Body.await v).run e).ComesTo J s u s') : WorkComesTo J e v s u s'

/-- No future that has been gone through like a sequence while it was pending, and still is. -/
def Value.Unclaimed (v : Value) (s : Store) : Prop :=
  ∀ id, v = .process .future id ∨ v = .process .task id → s.isPending id → s.isClaimed id = false

section

variable {J : Store → Store → Prop} {o : Others} {e : Engine} {makes : Heap → Value → Value → Prop}
  {s s' : Store} {c i : Nat} {u x part : Value} {conversion : Conversion}

theorem workComesTo_coroutine : (Value.process .coroutine c).WorkComesTo J e s u s' ↔
    (awaitCoroutine e c).ComesTo J s u s' := by
  refine Iff.trans ⟨fun h => ?_, .run⟩ comesTo_taskMain
  cases h with
  | own future => simp at future
  | run runs => exact runs
  | awaited plain => exact absurd rfl (plain _ _)

/-- Code that awaits a value comes to the same as the work of a stream, if it can await it. -/
theorem comesTo_awaitValue (unclaimed : part.Unclaimed s) :
    (awaitValue e part).ComesTo J s u s' ↔ part.WorkComesTo J e s u s' := by
  have future {kind : ProcessKind} {id : Nat} (future : kind = .future ∨ kind = .task)
      (unclaimed : s.isPending id → s.isClaimed id = false) :
      (awaitFuture id).ComesTo J s u s' ↔ (Value.process kind id).WorkComesTo J e s u s' := by
    rw [comesTo_awaitFuture]
    constructor
    · rintro ⟨waits, finished⟩
      refine .own future ?_ finished
      split_ifs at waits ⊢
      · exact waits.2
      · exact waits
    · intro h
      cases h with
      | own _ waits finished =>
        refine ⟨?_, finished⟩
        split_ifs at waits ⊢ with pending
        · exact ⟨unclaimed pending, waits⟩
        · exact waits
      | run => simp at future
      | awaited plain => exact absurd rfl (plain _ _)
  by_cases process : ∃ kind id, part = .process kind id
  · obtain ⟨kind, id, rfl⟩ := process
    cases kind with
    | coroutine => exact workComesTo_coroutine.symm
    | future => exact future (.inl rfl) (unclaimed id (.inl rfl))
    | task => exact future (.inr rfl) (unclaimed id (.inr rfl))
    | asyncGenerator =>
      refine ⟨fun refused => (Run.not_comesTo_throw refused).elim, fun h => ?_⟩
      cases h with
      | own future => simp at future
      | awaited plain => exact absurd rfl (plain _ _)
  · refine ⟨.awaited fun kind id same => process ⟨kind, id, same⟩, fun h => ?_⟩
    cases h with
    | own | run => exact absurd ⟨_, _, rfl⟩ process
    | awaited _ runs => exact runs

/-- A coroutine that converts what it awaits comes to what the work for that comes to, converted. -/
theorem workComesTo_convert {depth : Nat}
    (known : s.coroutines[c]? = some { body := .convert part conversion }) (unclaimed : part.Unclaimed s) :
    (Value.process .coroutine c).WorkComesTo (Store.Around J c) (engine (depth + 1)) s x s' ↔
      ∃ u s₁, part.WorkComesTo (Store.Within J c) (engine depth) (s.setCoroutine c .running) u s₁ ∧
        conversion.apply s₁.heap u = .ok x ∧ s' = s₁.setCoroutine c .closed := by
  have unclaimed : part.Unclaimed (s.setCoroutine c .running) := unclaimed
  have body {v : Value} {s₁ : Store} : ((engine (depth + 1)).body (.convert part conversion)).ComesTo
      (Store.Within J c) (s.setCoroutine c .running) v s₁ ↔ _ := comesTo_convert
  rw [workComesTo_coroutine, ← comesTo_taskMain, comesTo_taskMain_new known]
  simp only [body, comesTo_awaitValue unclaimed]
  constructor
  · rintro ⟨s₁, ⟨u, awaited, made⟩, rfl⟩
    exact ⟨u, s₁, awaited, made, rfl⟩
  · rintro ⟨u, s₁, awaited, made, rfl⟩
    exact ⟨s₁, ⟨u, awaited, made⟩, rfl⟩

/-- The coroutine that a stream makes for a value that is none, to be run by a task, comes to what the work
for that value is said to come to. -/
theorem comesTo_taskMain_await {depth : Nat} (plain : ∀ kind id, part ≠ .process kind id)
    (known : s.coroutines[c]? = some { body := .await part }) :
    (taskMain (engine (depth + 1)) c none).ComesTo (Store.Around J c) s u s' ↔
      ∃ s₁, part.WorkComesTo (Store.Within J c) (engine depth) (s.setCoroutine c .running) u s₁ ∧
        s' = s₁.setCoroutine c .closed := by
  have unclaimed : part.Unclaimed (s.setCoroutine c .running) := by
    rintro id (same | same) <;> exact absurd same (plain _ _)
  rw [comesTo_taskMain_new known]
  exact exists_congr fun s₁ => and_congr_left' (comesTo_awaitValue unclaimed)

/-- The task in which a stream asks for an item comes to the item, or to the sign of the end. -/
theorem comesTo_taskMain_nextItem {depth : Nat} (known : s.coroutines[c]? = some { body := .nextItem part }) :
    (taskMain (engine (depth + 1)) c none).ComesTo (Store.Around J c) s u s' ↔
      ∃ next s₁, (nextOrEnd (engine depth) part).ComesTo (Store.Within J c)
          (s.setCoroutine c .running) next s₁ ∧
        u = .tuple (.constant 0 0) [.bool next.isNone, next.getD .none] ∧ s' = s₁.setCoroutine c .closed := by
  have body {v : Value} {s₁ : Store} : ((engine (depth + 1)).body (.nextItem part)).ComesTo
      (Store.Within J c) (s.setCoroutine c .running) v s₁ ↔ _ := comesTo_itemOrEnd
  rw [comesTo_taskMain_new known]
  simp only [body]
  constructor
  · rintro ⟨s₁, ⟨next, asked, same⟩, left⟩
    exact ⟨next, s₁, asked, same, left⟩
  · rintro ⟨next, s₁, asked, same, left⟩
    exact ⟨s₁, ⟨next, asked, same⟩, left⟩

end

/-! ### Values that are gone through -/

/-- The items that an iterator brings when it is asked for one after the other until the end, and what is
made of each. -/
inductive Value.Produces (o : Others) (e : Engine) (makes : Heap → Value → Value → Prop) (it : Value) :
    Store → List Value → Store → Prop
  | ended {s s'} (ends : (nextOrEnd e it).ComesTo o.meanwhile s Option.none s') :
      Produces o e makes it s [] s'
  | item {s s₁ s₂ s' u x xs} (brings : (nextOrEnd e it).ComesTo o.meanwhile s (some u) s₁)
      (made : makes s₁.heap u x) (others : o.between s₁ s₂) (rest : Produces o e makes it s₂ xs s') :
      Produces o e makes it s (x :: xs) s'

/-- A generator as others see it that see it running all the time. -/
def Store.hide (s : Store) (i : Nat) : Store :=
  s.setGenerator i { body := .finished, running := true }

/-- What others do who see a generator running all the time and leave it as it is. -/
def Others.leaving (o : Others) (i : Nat) (g : Generator) : Others where
  meanwhile := o.meanwhile
  between s s' := o.between (s.hide i) (s'.hide i) ∧ s'.generators[i]? = some g

section

variable {o : Others} {e : Engine} {makes : Heap → Value → Value → Prop} {s s' : Store} {i : Nat}
  {part : Value} {xs : List Value} {conversion : Conversion} {iterator : Option Value}

theorem Store.setGenerator_setGenerator (s : Store) (i : Nat) (g g' : Generator) :
    (s.setGenerator i g).setGenerator i g' = s.setGenerator i g' := by
  unfold setGenerator
  rw [Array.setIfInBounds_setIfInBounds]

theorem Store.setGenerator_of_known {g : Generator} (known : s.generators[i]? = some g) :
    s.setGenerator i g = s := by
  unfold setGenerator
  congr 1
  apply Array.ext_getElem?
  intro j
  rw [Array.getElem?_setIfInBounds]
  split_ifs with same there
  · rw [← same, known]
  · rw [← same, Array.getElem?_eq_none (Nat.le_of_not_lt there)]
  · rfl

theorem Store.hide_setGenerator (s : Store) (i : Nat) (g : Generator) :
    (s.setGenerator i g).hide i = s.hide i :=
  s.setGenerator_setGenerator i g _

theorem Store.generators_setGenerator {g : Generator} (lt : i < s.generators.size) :
    (s.setGenerator i g).generators[i]? = some g :=
  Array.getElem?_setIfInBounds_self_of_lt lt

/-- A generator that goes through an iterable, and the same while it runs. -/
def Generator.converts (part : Value) (iterator : Option Value) (conversion : Conversion)
    (running : Bool) : Generator where
  body := .convert part iterator conversion
  running

theorem produces_convert {depth : Nat} (own : iterator = none ∨ iterator = some part)
    (known : s.generators[i]? = some (.converts part iterator conversion false)) :
    (Value.process .asyncGenerator i).Produces
        (o.leaving i (.converts part (some part) conversion false)) (engine (depth + 1))
        (fun _ u x => x = u) s xs s' ↔
      (iterator = none → part.Iterates) ∧ ∃ s₁,
        part.Produces (o.leaving i (.converts part (some part) conversion true)) (engine depth)
          (fun heap u x => conversion.apply heap u = .ok x)
          (s.setGenerator i (.converts part iterator conversion true)) xs s₁ ∧
        s' = s₁.setGenerator i { body := .finished } := by
  have asks : (engine (depth + 1)).next (.process .asyncGenerator i) = nextYielded (engine depth) i := rfl
  constructor
  · intro h
    induction h generalizing iterator with
    | ended ends =>
      obtain ⟨iterates, item, s₁, asked, converted, rfl⟩ := (comesTo_nextOrEnd_convert asks known own).mp ends
      cases converted
      exact ⟨iterates, s₁, .ended asked, rfl⟩
    | item brings made others rest ih =>
      obtain ⟨iterates, item, s₁, asked, converted, rfl⟩ :=
        (comesTo_nextOrEnd_convert asks known own).mp brings
      cases converted with
      | item applied =>
        subst made
        obtain ⟨told, idle⟩ := others
        obtain ⟨-, s₃, rest, same⟩ := ih (.inr rfl) idle
        refine ⟨iterates, s₃, .item asked applied ⟨?_, ?_⟩ rest, same⟩
        · rw [Store.hide_setGenerator] at told ⊢
          exact told
        · exact Store.generators_setGenerator (Array.getElem?_eq_some_iff.mp idle).1
  · rintro ⟨iterates, s₁, h, rfl⟩
    generalize begun : s.setGenerator i (.converts part iterator conversion true) = s₀ at h
    induction h generalizing s iterator with
    | ended ends =>
      subst begun
      exact .ended ((comesTo_nextOrEnd_convert asks known own).mpr ⟨iterates, none, _, ends, .ended, rfl⟩)
    | @item _ s₂ s₃ s₄ u x xs brings made others rest ih =>
      subst begun
      obtain ⟨told, running⟩ := others
      have asked := (comesTo_nextOrEnd_convert asks known own).mpr
        ⟨iterates, some u, _, brings, .item made, rfl⟩
      have lt := (Array.getElem?_eq_some_iff.mp running).1
      have next := ih (s := s₃.setGenerator i (.converts part (some part) conversion false)) (.inr rfl)
        (Store.generators_setGenerator lt) nofun
        (by rw [Store.setGenerator_setGenerator, Store.setGenerator_of_known running])
      refine .item asked rfl ⟨?_, Store.generators_setGenerator lt⟩ next
      rw [Store.hide_setGenerator, Store.hide_setGenerator]
      exact told

end

/-! ### Sources -/

/-- The values that a source brings, with what is made of each. -/
inductive Source.Brings (o : Others) (e : Engine) (makes : Heap → Value → Value → Prop) :
    Source → Store → List Value → Store → Prop
  | literal {v s x} (made : makes s.heap v x) : Brings o e makes ⟨.literal, v⟩ s [x] s
  | deferred {v s u s' x} (comes : v.WorkComesTo o.meanwhile e s u s') (made : makes s'.heap u x) :
      Brings o e makes ⟨.deferred, v⟩ s [x] s'
  | substream {v it s xs s'} (iterates : Store.iterator s.heap v Store.notAsyncIterator = .ok it)
      (produces : it.Produces o e makes s xs s') : Brings o e makes ⟨.substream, v⟩ s xs s'

section

variable {o : Others} {e : Engine} {makes makes' : Heap → Value → Value → Prop} {s s' : Store}
  {v : Value} {xs : List Value} {f : Value → Value} {source : Source}

theorem Value.Produces.map (h : v.Produces o e makes s xs s')
    (made : ∀ heap u x, x ∈ xs → makes heap u x → makes' heap u (f x)) :
    v.Produces o e makes' s (xs.map f) s' := by
  induction h with
  | ended ends => exact .ended ends
  | item brings first others rest ih =>
    exact .item brings (made _ _ _ (.head _) first) others
      (ih fun heap u x mem => made heap u x (.tail _ mem))

theorem Source.brings_literal : Brings o e makes ⟨.literal, v⟩ s xs s' ↔
    ∃ x, makes s.heap v x ∧ xs = [x] ∧ s' = s := by
  constructor
  · intro h
    cases h with
    | literal made => exact ⟨_, made, rfl, rfl⟩
  · rintro ⟨x, made, rfl, rfl⟩
    exact .literal made

theorem Source.brings_deferred : Brings o e makes ⟨.deferred, v⟩ s xs s' ↔
    ∃ u x, v.WorkComesTo o.meanwhile e s u s' ∧ makes s'.heap u x ∧ xs = [x] := by
  constructor
  · intro h
    cases h with
    | deferred comes made => exact ⟨_, _, comes, made, rfl⟩
  · rintro ⟨u, x, comes, made, rfl⟩
    exact .deferred comes made

theorem Source.brings_substream : Brings o e makes ⟨.substream, v⟩ s xs s' ↔
    (∀ id, v ≠ .cell .badAsyncIterable id) ∧ v.Produces o e makes s xs s' := by
  constructor
  · intro h
    cases h with
    | substream iterates produces =>
      obtain ⟨rfl, good⟩ := Store.iterator_eq_ok.mp iterates
      exact ⟨good, produces⟩
  · rintro ⟨good, produces⟩
    exact .substream (Store.iterator_eq_ok.mpr ⟨rfl, good⟩) produces

/-- What is made of the values that a source brings may be made into something else. -/
theorem Source.Brings.map (h : source.Brings o e makes s xs s')
    (made : ∀ heap u x, x ∈ xs → makes heap u x → makes' heap u (f x)) :
    source.Brings o e makes' s (xs.map f) s' := by
  cases h with
  | literal first => exact .literal (made _ _ _ (.head _) first)
  | deferred comes first => exact .deferred comes (made _ _ _ (.head _) first)
  | substream iterates produces => exact .substream iterates (produces.map made)

end

end StreamTemplate
