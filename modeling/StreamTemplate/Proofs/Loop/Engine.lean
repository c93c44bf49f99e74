import StreamTemplate.Loop.Consume
import StreamTemplate.Proofs.Operation.Conduct

/-!
# What waiting code does

Awaiting, asynchronous iteration and the consumption of streams are in a conduct, if the bodies of the
coroutines that run meanwhile are.
-/

namespace StreamTemplate

open Run

/-- Whatever is run in place of a coroutine or a generator is in a conduct. -/
structure Engine.Obeys {gives : Progress → Prop} (C : ConductGiving gives) (e : Engine) : Prop where
  body : ∀ b, StreamTemplate.Obeys C (e.body b)
  next : ∀ v, StreamTemplate.Obeys C (e.next v)

variable {gives : Progress → Prop} {C : ConductGiving gives}

/-! ### Futures and coroutines -/

theorem obeys_awaitFuture (id : Nat) : Obeys C (awaitFuture id) := by
  have deliver : Obeys C (do Run.ofExcept ((← Run.act get).progress id).deliver) :=
    Run.obeys_get.bind fun s => obeys_ofExcept _
  refine Run.obeys_get.bind fun s => ?_
  dsimp only
  split
  · split
    · exact (obeys_throw _).bind fun _ => deliver
    · exact (obeys_wait _).bind fun _ => deliver
  · exact deliver

theorem obeys_awaitCoroutine {e : Engine} (he : e.Obeys C) (id : Nat) :
    Obeys C (awaitCoroutine e id) :=
  C.await (fun body => he.body body) id

theorem obeys_taskMain {e : Engine} (he : e.Obeys C) (id : Nat) (thrown : Option Fault) :
    Obeys C (taskMain e id thrown) :=
  C.main (fun body => he.body body) id thrown

theorem obeys_awaitValue {e : Engine} (he : e.Obeys C) (v : Value) :
    Obeys C (awaitValue e v) := by
  unfold awaitValue
  split
  · exact obeys_awaitCoroutine he _
  · exact obeys_awaitFuture _
  · exact obeys_awaitFuture _
  iterate 2
    refine (obeys_act Act.obeys_heap).bind fun heap => ?_
    split
    · exact obeys_act (obeys_build _)
    · exact obeys_act (obeys_build _)
    · exact obeys_pure _
  · exact obeys_fail _

/-! ### Asynchronous iteration -/

theorem obeys_asyncIterator (v : Value) : Obeys C (asyncIterator v) := by
  have found : Obeys C (do Run.ofExcept (Store.iterator (← Run.act get).heap v
      ValueFault.badAsyncIterator.toFault)) :=
    Run.obeys_get.bind fun s => obeys_ofExcept _
  unfold asyncIterator
  dsimp only
  split
  · exact (obeys_fail _).bind fun _ => found
  · exact found

theorem obeys_nextOrEnd {e : Engine} (he : e.Obeys C) (iterator : Value) :
    Obeys C (nextOrEnd e iterator) := by
  refine (obeys_attempt (he.next iterator)).bind fun r => ?_
  split
  · exact obeys_pure _
  · split
    · exact obeys_pure _
    · exact obeys_throw _

theorem obeys_collectOnto {e : Engine} (he : e.Obeys C) (iterator : Value) (rounds : Nat)
    (items : List Value) : Obeys C (collectOnto e iterator items rounds) := by
  induction rounds generalizing items with
  | zero => exact obeys_stuck
  | succ rounds ih =>
    refine (obeys_nextOrEnd he iterator).bind fun next => ?_
    cases next with
    | none => exact obeys_pure _
    | some v => exact ih _

theorem obeys_collectItems {e : Engine} (he : e.Obeys C) (iterator : Value) :
    Obeys C (collectItems e iterator) :=
  (obeys_collectOnto he iterator _ _).bind fun _ => obeys_pure _

theorem obeys_nextStored (id : Nat) : Obeys C (nextStored id) := by
  refine (obeys_act Act.obeys_heap).bind fun heap => ?_
  split
  · refine (Run.obeys_work _).bind fun _ => ?_
    exact (obeys_attempt (obeys_act (obeys_produce _))).bind fun _ => obeys_ofExcept _
  · exact obeys_throw _

/-! ### Scripts and generators -/

theorem obeys_awaitGate (name : String) : Obeys C (awaitGate name) :=
  (obeys_act (Act.obeys_always (Store.obeys_gate name))).bind obeys_awaitFuture

theorem obeys_sleep (turns : Nat) : Obeys C (sleep turns) := by
  induction turns with
  | zero => exact obeys_pure _
  | succ turns ih => exact (obeys_wait .turn).bind fun _ => ih

theorem obeys_currentStream : Obeys C currentStream := by
  refine Act.obeys_get.bind fun s => ?_
  split
  · exact obeys_pure _
  · exact Act.obeys_fail _

theorem obeys_pushChunk (stream : Nat) (chunk : Value) : Obeys C (pushChunk stream chunk) :=
  Act.obeys_get.bind fun _ =>
    Store.obeys_onStream stream (ChunkStream.obeys_push (Store.obeys_surroundings stream) _)

theorem obeys_buildFault? (recipe : Option FaultRecipe) : Obeys C (buildFault? recipe) := by
  cases recipe with
  | none => exact obeys_pure _
  | some recipe => exact (obeys_buildFault recipe).bind fun _ => obeys_pure _

theorem obeys_runScript (steps : List Step) : Obeys C (runScript steps) := by
  induction steps with
  | nil => exact obeys_pure _
  | cons step rest ih =>
    unfold runScript
    cases step with
    | log text => exact .bind (obeys_act (Act.obeys_modify fun _ => ⟨rfl, rfl, rfl, rfl, rfl, rfl⟩)) fun _ => ih
    | wait gate => exact (obeys_awaitGate gate).bind fun _ => ih
    | sleep turns => exact (obeys_sleep turns).bind fun _ => ih
    | push chunk =>
      refine .bind (obeys_act ?_) fun _ => ih
      refine obeys_currentStream.bind fun stream => (obeys_build chunk).bind fun v => ?_
      exact obeys_pushChunk stream v
    | close fault =>
      refine .bind (obeys_act ?_) fun _ => ih
      refine (obeys_buildFault? fault).bind fun fault => obeys_currentStream.bind fun stream => ?_
      exact Store.obeys_onStream stream
        (ChunkStream.obeys_close (Store.obeys_surroundings stream) fault)
    | abort fault =>
      refine .bind (obeys_act ?_) fun _ => ih
      refine (obeys_buildFault? fault).bind fun fault => obeys_currentStream.bind fun stream => ?_
      exact Store.obeys_onStream stream
        (ChunkStream.obeys_abort (Store.obeys_surroundings stream) fault)
    | raise fault => exact (obeys_act (obeys_buildFault fault)).bind fun _ => obeys_throw _
    | «return» result => exact (obeys_act (obeys_build result)).bind fun _ => obeys_pure _
    | returnGate gate => exact (obeys_awaitGate gate).bind fun _ => obeys_pure _
    | yield item => exact (obeys_act (obeys_build item)).bind fun _ => obeys_pure _
    | yieldGate gate => exact (obeys_awaitGate gate).bind fun _ => obeys_pure _

theorem obeys_runGenerator {e : Engine} (he : e.Obeys C) (body : GeneratorBody) :
    Obeys C (runGenerator e body) := by
  cases body with
  | finished => exact obeys_pure _
  | script steps =>
    refine (obeys_attempt (obeys_runScript steps)).bind fun halt => ?_
    refine (obeys_ofExcept _).bind fun halt => ?_
    split <;> exact obeys_pure _
  | convert iterable iterator conversion =>
    unfold runGenerator
    dsimp -zeta only
    extract_lets goes
    have goes (iterator : Value) : Obeys C (goes iterator) := by
      refine (obeys_nextOrEnd he iterator).bind fun next => ?_
      cases next with
      | none => exact obeys_pure _
      | some item => exact (obeys_act (Act.obeys_view _)).bind fun _ => obeys_pure _
    cases iterator with
    | some iterator => exact (obeys_pure _).bind goes
    | none => exact (obeys_asyncIterator iterable).bind goes

theorem obeys_nextYielded {e : Engine} (he : e.Obeys C) (id : Nat) :
    Obeys C (nextYielded e id) :=
  C.yield (fun body => obeys_runGenerator he body) id

theorem obeys_nextItem {e : Engine} (he : e.Obeys C) (iterator : Value) :
    Obeys C (nextItem e iterator) := by
  unfold nextItem
  split
  · exact obeys_nextYielded he _
  · exact obeys_nextStored _
  · exact obeys_nextStored _
  · exact obeys_fail _

/-! ### Consuming a stream -/

theorem obeys_awaitWake (stream : Nat) : Obeys C (awaitWake stream) := by
  have noted (waiter : Option Nat) : Obeys C
      (Run.act (Store.onStream stream fun _ => ChunkStream.setWaiter waiter)) :=
    obeys_act (Store.obeys_onStream stream (StreamM.obeys_modify _))
  refine (obeys_act (Act.obeys_always Store.obeys_newFuture)).bind fun waiter => ?_
  refine (noted (some waiter)).bind fun _ => obeys_ensuring ?_ (noted none)
  exact (obeys_awaitFuture waiter).map _

theorem obeys_pullWithin (stream : Nat) (size : Option Int) (rounds : Nat) :
    Obeys C (pullWithin stream size rounds) := by
  induction rounds with
  | zero => exact obeys_stuck
  | succ rounds ih =>
    refine (obeys_act (Store.obeys_onStream stream
      (ChunkStream.obeys_advance (Store.obeys_surroundings stream) size))).bind fun next => ?_
    cases next with
    | chunk v => exact obeys_pure _
    | ended => exact obeys_pure _
    | wait => exact (obeys_awaitWake stream).bind fun _ => ih

theorem obeys_pull (stream : Nat) (size : Option Int) : Obeys C (pull stream size) := by
  refine (obeys_act (Store.obeys_onStream stream ChunkStream.obeys_beginPull)).bind
    fun _ => ?_
  refine (obeys_attempt (obeys_ensuring (obeys_pullWithin stream size _) ?_)).bind
    fun _ => obeys_ofExcept _
  exact obeys_act (Store.obeys_onStream stream (StreamM.obeys_modify _))

theorem obeys_pullInLoop (stream : Nat) : Obeys C (pullInLoop stream) := by
  refine (obeys_attempt (obeys_pull stream none)).bind fun r => ?_
  split
  · exact obeys_pure _
  · split
    · exact obeys_pure _
    · exact obeys_throw _

section

variable {α : Type} (f : Heap → Value → Except Fault α)

theorem obeys_gatherOnto (stream rounds : Nat) (parts : List α) :
    Obeys C (gatherOnto stream f parts rounds) := by
  induction rounds generalizing parts with
  | zero => exact obeys_stuck
  | succ rounds ih =>
    refine (obeys_pullInLoop stream).bind fun chunk => ?_
    cases chunk with
    | none => exact obeys_pure _
    | some chunk => exact (obeys_act (Act.obeys_view _)).bind fun _ => ih _

theorem obeys_gather (stream : Nat) : Obeys C (gather stream f) :=
  (obeys_gatherOnto f stream _ _).bind fun _ => obeys_pure _

end

theorem obeys_readText (stream : Nat) (encoding : String) :
    Obeys C (readText stream encoding) :=
  (obeys_gather _ stream).bind fun _ => obeys_pure _

theorem obeys_consume (stream : Nat) (call : StreamCall) : Obeys C (consume stream call) := by
  cases call with
  | pull size => exact (obeys_pull stream size).bind fun _ => obeys_pure _
  | next =>
    refine (obeys_pull stream none).bind fun chunk => ?_
    cases chunk with
    | some chunk => exact obeys_pure _
    | none => exact obeys_throw _
  | collect => exact (obeys_gather _ stream).bind fun _ => Run.obeys_work _
  | readText encoding => exact obeys_readText stream encoding
  | readBytes encoding => exact (obeys_gather _ stream).bind fun _ => obeys_pure _

end StreamTemplate
