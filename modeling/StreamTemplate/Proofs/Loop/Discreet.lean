import StreamTemplate.Proofs.Loop.Amid
import StreamTemplate.Proofs.Loop.Rule

/-!
# Discretion is a conduct

Nothing but making a render context and noting a line in one's own changes render contexts.
-/

namespace StreamTemplate

open Run

theorem Process.Minds.superviseCoroutine {id : Nat} {before : Option Nat}
    {p : Process Store (Except Fault Value)} {own : Nat → Prop} {s : Store}
    (h : p.Minds own (fun _ => True) s) :
    (superviseCoroutine id before p).Minds own (fun _ => True) s := by
  induction p generalizing own s with
  | done r => exact ⟨.of_eq rfl, trivial⟩
  | stuck => trivial
  | act x k ih => exact ⟨h.1, ih _ h.2⟩
  | wait w k ih =>
    refine ⟨.of_eq rfl, fun thrown s' => ⟨.of_eq rfl, ?_⟩⟩
    show Minds _ _ (if s'.coroutineState id = .closed then _ else _) s'
    split
    · exact ⟨.of_eq rfl, trivial⟩
    · refine ⟨.of_eq rfl, ih thrown ((h thrown _).mono (fun i mine => ?_) fun _ done => done)⟩
      exact .inl (.inl (.inl mine))

/-- The rule to be discreet. -/
inductive Discretely
  | discretely

open Discretely

instance : Ruled discretely (Process Store) where
  holds := Discreet
  pure := discreet_pure
  bind := Discreet.bind

theorem discreet_setCoroutine (id : Nat) (state : CoroutineState) :
    Discreet (Run.act (modify fun s => s.setCoroutine id state)) :=
  discreet_act (Act.discreet_modify fun _ => rfl)

theorem discreet_setGenerator (id : Nat) (g : Generator) :
    Discreet (Run.act (modify fun s => s.setGenerator id g)) :=
  discreet_act (Act.discreet_modify fun _ => rfl)

theorem discreet_runCoroutine {e : Engine} (body : ∀ b, Discreet (e.body b)) (id : Nat) :
    Discreet (runCoroutine e id) := by
  refine Run.discreet_get.bind fun s => ?_
  split
  · exact discreet_throw _
  · next c _ =>
    refine (discreet_setCoroutine id .running).bind fun _ => ?_
    exact fun own s => ((body c.body).run.minds own s).superviseCoroutine

theorem Discretely.runsCoroutines : RunsCoroutines discretely where
  get := Run.discreet_get.run
  setCoroutine id state := (discreet_setCoroutine id state).run
  setGenerator id g := (discreet_setGenerator id g).run
  wait w := (discreet_wait w).run
  stuck := discreet_stuck.run
  runCoroutine body id := (discreet_runCoroutine body id).run

/-- The render context of a render is one that it makes itself. -/
theorem Process.Minds.newContext {α : Type} {c : RenderContext}
    {f : Nat → Option Nat → Process Store α}
    (hf : ∀ context before own s, own context → (f context before).Minds own (fun _ => True) s) :
    Discreet (do
      let context ← .ofState (Store.newContext c)
      let s ← .ofState get
      .ofState (Store.setContext (some context))
      f context s.context : Process Store α) := by
  intro own s
  have size : (s.contexts.push c).size = s.contexts.size + 1 := Array.size_push ..
  refine ⟨⟨?_, fun i there _ => ?_⟩, ?_⟩
  · show _ ≤ (s.contexts.push _).size
    omega
  · show (s.contexts.push _)[i]? = s.contexts[i]?
    rw [Array.getElem?_push_lt there, Array.getElem?_eq_getElem there]
  · refine ⟨.of_eq rfl, .of_eq rfl, hf s.contexts.size _ _ _ (.inl (.inl (.inr ⟨Nat.le_refl _, ?_⟩)))⟩
    show _ < (s.contexts.push _).size
    omega

/-- A render may note lines in its own render context. -/
theorem Process.Minds.setLine {own : Nat → Prop} {context : Nat} (mine : own context) (line : Int)
    (s : Store) : (Process.ofState (Store.setLine context line)).Minds own (fun _ => True) s := by
  refine ⟨⟨Nat.le_of_eq Array.size_modify.symm, fun i _ foreign => ?_⟩, trivial⟩
  have other : context ≠ i := fun same => foreign (same ▸ mine)
  show (s.contexts.modify context _)[i]? = s.contexts[i]?
  rw [Array.getElem?_modify, if_neg other]

/-- To leave the render contexts alone, but those that one makes oneself. -/
def Conduct.discreet : Conduct where
  act x := Discreet x
  run p := Discreet p
  within context _ p := ∀ own s, own context → p.Minds own (fun _ => True) s
  leaves context _ _ p := ∀ own s, own context → p.Minds own (fun _ => True) s
  act_pure := discreet_pure
  act_bind := Discreet.bind
  run_done := discreet_pure
  run_stuck := fun _ _ => trivial
  run_act := discreet_ofState
  run_wait goesOn own s := fun thrown s' => goesOn thrown own s'
  run_bind := Discreet.bind
  within_run hp own s _ := hp own s
  within_bind hp hf own s mine :=
    (hp own s mine).bind fun a own' s' _ sub => hf a own' s' (sub _ mine)
  setLine _ line _ s mine := .setLine mine line s
  leaves_within hp hf own s mine :=
    (hp own s mine).bind fun a own' s' _ sub => hf a own' s' (sub _ mine)
  leaves_back hp _ s _ := ⟨.of_eq rfl, hp _ { s with context := _ }⟩
  newContext _ _ hf := .newContext hf
  unseen same := discreet_of_same fun s => (same s).contexts
  newCoroutine _ := discreet_of_same fun _ => rfl
  closeCoroutine id := by
    refine Discreet.run (Act.discreet_get.bind fun s => ?_)
    dsimp only
    split
    · exact (discreet_throw _).bind fun _ => Act.discreet_modify fun _ => rfl
    · exact Act.discreet_modify fun _ => rfl
  newGenerator _ := discreet_of_same fun _ => rfl
  newFuture := discreet_of_same fun _ => rfl
  newTask _ _ := discreet_of_same fun _ => rfl
  modifyFuture _ _ _ _ _ := discreet_of_same fun _ => rfl
  wakes := trivial
  cancels := trivial
  complete id _ _ := by
    have told (listener : Listener) : Discreet (Store.enqueue (listener.whenDone id)) :=
      discreet_modify fun _ => rfl
    refine discreet_get.bind fun s => ?_
    split
    · exact discreet_pure _
    · exact .bind (discreet_modify fun _ => rfl) fun _ => discreet_forM told _
  setStreams _ := discreet_of_same fun _ => rfl
  await body id := (Discretely.runsCoroutines.awaitCoroutine body id).run
  main body id thrown := (Discretely.runsCoroutines.taskMain body id thrown).run
  yield generator id := (Discretely.runsCoroutines.nextYielded generator id).run

end StreamTemplate
