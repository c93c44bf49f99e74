import StreamTemplate.Loop.Supply
import StreamTemplate.Proofs.Loop.Rule

/-!
# What the event loop does at once

Operations on streams obey a rule if what they do outside does. In the event loop that is what is done with
coroutines, futures and tasks, so every conduct allows for it.
-/

namespace StreamTemplate

universe u

/-! ### Streams -/

/-- The surroundings of a stream obey a rule, whatever the stream asks of them. -/
structure Surroundings.Obeys {ι : Type u} (R : ι) [Ruled R (StateM Store)]
    (host : Surroundings (StateM Store)) : Prop where
  start : ∀ v, StreamTemplate.Obeys R (host.start v)
  iterate : ∀ v, StreamTemplate.Obeys R (host.iterate v)
  request : ∀ v, StreamTemplate.Obeys R (host.request v)
  progress : ∀ w, StreamTemplate.Obeys R (host.progress w)
  listen : ∀ w, StreamTemplate.Obeys R (host.listen w)
  ignore : ∀ w, StreamTemplate.Obeys R (host.ignore w)
  wake : ∀ w, StreamTemplate.Obeys R (host.wake w)
  dispose : ∀ v, StreamTemplate.Obeys R (host.dispose v)
  normalize : ∀ v, StreamTemplate.Obeys R (host.normalize v)

namespace ChunkStream

open StreamM

variable {ι : Type u} {R : ι} [Ruled R (StateM Store)] {host : Surroundings (StateM Store)}
  (hh : host.Obeys R)

include hh

theorem obeys_wake : Obeys R (wake host) := by
  refine StreamM.obeys_get.bind fun st => ?_
  split
  · exact obeys_outside (hh.wake _)
  · exact obeys_pure _

theorem obeys_disposeAll (vs : List Value) : Obeys R (disposeAll host vs) := by
  induction vs with
  | nil => exact obeys_pure _
  | cons v vs ih => exact (obeys_outside? (hh.dispose v)).bind fun _ => ih

theorem obeys_fail (fault : Fault) : Obeys R (fail host fault) := by
  have rest : Obeys R (do
      modify fun st => { st with inflight := none, active := none, iterator := none }
      disposeAll host ((← get).queue.toList.map (·.value))
      modify fun st => { st with queue := {}, closed := true, fault := some fault, phase := .errored }
      wake host : StreamM (StateM Store) Unit) := by
    refine (StreamM.obeys_modify _).bind fun _ => StreamM.obeys_get.bind fun st => ?_
    refine (obeys_disposeAll hh _).bind fun _ => (StreamM.obeys_modify _).bind fun _ => ?_
    exact obeys_wake hh
  refine StreamM.obeys_get.bind fun st => ?_
  dsimp only
  split
  · exact (obeys_outside (hh.ignore _)).bind fun _ => rest
  · exact rest

theorem obeys_failWith {α : Type} (fault : Fault) :
    Obeys R (failWith host fault : StreamM (StateM Store) α) :=
  (obeys_fail hh fault).bind fun _ => obeys_throw _

theorem obeys_push (members : List Value) : Obeys R (push host members) := by
  refine StreamM.obeys_get.bind fun st => ?_
  split
  · exact obeys_disposeAll hh members
  · split
    · exact obeys_throw _
    · exact obeys_pure _
    · exact (StreamM.obeys_modify _).bind fun _ => obeys_wake hh

theorem obeys_close (fault : Option Fault) : Obeys R (close host fault) := by
  refine StreamM.obeys_get.bind fun st => ?_
  split
  · exact obeys_pure _
  · exact (StreamM.obeys_modify _).bind fun _ => obeys_wake hh

theorem obeys_abort (fault : Option Fault) : Obeys R (abort host fault) := by
  refine StreamM.obeys_get.bind fun st => ?_
  split
  · exact obeys_pure _
  · exact obeys_pure _
  · exact obeys_fail hh _
  · exact obeys_fail hh _

theorem obeys_listen (work : Nat) : Obeys R (listen host work) :=
  (StreamM.obeys_modify _).bind fun _ => obeys_outside (hh.listen work)

theorem obeys_activate (source : Source) : Obeys R (activate host source) := by
  have spoilt (fault : Fault) : Obeys R
      (if fault.isOrdinary then failWith host fault else throw fault : StreamM (StateM Store) Unit) := by
    split
    · exact obeys_failWith hh fault
    · exact obeys_throw fault
  refine (StreamM.obeys_modify _).bind fun _ => ?_
  split
  · refine (obeys_outside (hh.start _)).bind fun r => ?_
    cases r with
    | ok work => exact obeys_listen hh work
    | error fault => exact spoilt fault
  · refine (obeys_outside (hh.iterate _)).bind fun r => ?_
    cases r with
    | ok iterator => exact StreamM.obeys_modify _
    | error fault => exact spoilt fault

omit hh in
theorem obeys_release : Obeys R (release : StreamM (StateM Store) Unit) :=
  StreamM.obeys_modify _

theorem obeys_emit (v : Value) : Obeys R (emit host v) := by
  unfold emit
  split
  · exact (obeys_outside (hh.normalize v)).bind fun _ => obeys_pure _
  · exact obeys_failWith hh _

theorem obeys_takeIn (source : Source) (p : Progress) : Obeys R (takeIn host source p) := by
  unfold takeIn
  split
  · exact obeys_pure _
  · exact obeys_failWith hh _
  · exact obeys_failWith hh _
  · split
    · exact obeys_release.bind fun _ => obeys_emit hh _
    · split
      · exact obeys_emit hh _
      · exact obeys_release.bind fun _ => obeys_pure _

theorem obeys_settle (work : Nat) (p : Progress) : Obeys R (settle host work p) := by
  refine (obeys_outside (hh.ignore work)).bind fun _ => (StreamM.obeys_modify _).bind fun _ => ?_
  refine StreamM.obeys_get.bind fun st => ?_
  split
  · exact obeys_throw _
  · exact obeys_takeIn hh _ p

theorem obeys_inflightWork : Obeys R (inflightWork host) := by
  refine StreamM.obeys_get.bind fun st => ?_
  split
  · exact obeys_pure _
  · refine StreamM.obeys_get.bind fun st => ?_
    split
    · exact obeys_throw _
    · refine (obeys_outside (hh.request _)).bind fun work => ?_
      exact (obeys_listen hh work).bind fun _ => obeys_pure _

theorem obeys_drain (size : Option Int) : Obeys R (drain host size) := by
  refine (obeys_inflightWork hh).bind fun work => ?_
  refine (obeys_outside (hh.progress work)).bind fun p => ?_
  split
  · exact (StreamM.obeys_modify _).bind fun _ => obeys_pure _
  · exact (obeys_settle hh work _).bind fun _ => obeys_pure _

theorem obeys_finish : Obeys R (finish host) := by
  refine StreamM.obeys_get.bind fun st => ?_
  split
  · exact obeys_failWith hh _
  · exact (StreamM.obeys_modify _).bind fun _ => (obeys_wake hh).bind fun _ => obeys_pure _

theorem obeys_next (size : Option Int) (sources : List Source) :
    Obeys R (next host size sources) := by
  induction sources with
  | nil =>
    refine StreamM.obeys_get.bind fun st => ?_
    split
    · exact obeys_finish hh
    · exact (StreamM.obeys_modify _).bind fun _ => obeys_pure _
  | cons source rest ih =>
    refine (StreamM.obeys_modify _).bind fun _ => ?_
    split
    · exact (obeys_outside (hh.normalize _)).bind fun _ => obeys_pure _
    · refine (obeys_activate hh source).bind fun _ => (obeys_drain hh size).bind fun r => ?_
      cases r with
      | some result => exact obeys_pure _
      | none => exact ih

theorem obeys_advance (size : Option Int) : Obeys R (advance host size) := by
  have serve : Obeys R (do next host size (← get).queue.toList) :=
    StreamM.obeys_get.bind fun st => obeys_next hh size _
  refine StreamM.obeys_get.bind fun st => ?_
  split
  · exact StreamM.obeys_get.bind fun st => obeys_throw _
  · exact obeys_pure _
  · refine (obeys_drain hh size).bind fun r => ?_
    cases r with
    | some result => exact obeys_pure _
    | none => exact serve
  · exact serve

theorem obeys_noticed (work : Nat) : Obeys R (noticed host work) := by
  refine StreamM.obeys_get.bind fun st => ?_
  split
  · exact obeys_wake hh
  · exact obeys_pure _

omit hh

theorem obeys_beginPull : Obeys R (beginPull : StreamM (StateM Store) Unit) := by
  refine StreamM.obeys_get.bind fun st => ?_
  dsimp only
  split
  · exact (obeys_throw _).bind fun _ => StreamM.obeys_modify _
  · exact StreamM.obeys_modify _

end ChunkStream

/-! ### Coroutines, futures and tasks -/

namespace Store

variable {gives : Progress → Prop} {C : ConductGiving gives}

theorem obeys_enqueue (r : Ready) : Obeys C (enqueue r) :=
  C.unseen fun _ => ⟨rfl, rfl, rfl, rfl, rfl, rfl⟩

theorem obeys_newCoroutine (body : Body) : Obeys C (newCoroutine body) :=
  C.newCoroutine body

theorem obeys_newGenerator (body : GeneratorBody) : Obeys C (newGenerator body) :=
  C.newGenerator body

theorem obeys_closeCoroutine (id : Nat) : Obeys C (closeCoroutine id) :=
  C.closeCoroutine id

theorem obeys_newFuture : Obeys C newFuture :=
  C.newFuture

theorem obeys_newTask (coroutine : Nat) (report : Option String) :
    Obeys C (newTask coroutine report) :=
  C.newTask coroutine report

theorem obeys_modifyFuture (id : Nat) {f : Future → Future}
    (progress : ∀ future, (f future).progress = future.progress)
    (coroutine : ∀ future, (f future).task.map (·.coroutine) = future.task.map (·.coroutine))
    (context : ∀ future, (f future).task.map (·.context) = future.task.map (·.context)) :
    Obeys C (modifyFuture id f) :=
  C.modifyFuture id progress coroutine context

theorem obeys_modifyTask (id : Nat) {f : TaskState → TaskState}
    (coroutine : ∀ task, (f task).coroutine = task.coroutine)
    (context : ∀ task, (f task).context = task.context) : Obeys C (modifyTask id f) := by
  refine obeys_modifyFuture id (fun _ => rfl) (fun future => ?_) fun future => ?_
  · cases future.task with
    | none => rfl
    | some task => exact congrArg some (coroutine task)
  · cases future.task with
    | none => rfl
    | some task => exact congrArg some (context task)

theorem obeys_complete (id : Nat) {progress : Progress} (allowed : gives progress) :
    Obeys C (complete id progress) :=
  C.complete id progress allowed

theorem obeys_listen (id : Nat) (listener : Listener) : Obeys C (listen id listener) := by
  refine obeys_get.bind fun s => ?_
  split
  · exact obeys_modifyFuture id (fun _ => rfl) (fun _ => rfl) fun _ => rfl
  · exact obeys_enqueue _

theorem obeys_ignore (id : Nat) (listener : Listener) : Obeys C (ignore id listener) :=
  obeys_modifyFuture id (fun _ => rfl) (fun _ => rfl) fun _ => rfl

theorem obeys_gate (name : String) : Obeys C (gate name) := by
  refine obeys_get.bind fun s => ?_
  split
  · exact obeys_pure _
  · refine obeys_newFuture.bind fun id => ?_
    exact .bind (C.unseen fun _ => ⟨rfl, rfl, rfl, rfl, rfl, rfl⟩) fun _ => obeys_pure _

/-! ### Streams in the event loop -/

theorem obeys_startAwaiting (v : Value) : Obeys C (startAwaiting v) := by
  unfold startAwaiting
  split
  · exact obeys_pure _
  · exact obeys_pure _
  · exact obeys_newTask _ none
  · exact (obeys_newCoroutine _).bind fun _ => obeys_newTask _ none

theorem obeys_surroundings (stream : Nat) : (surroundings stream).Obeys C where
  start v := (obeys_startAwaiting v).map Except.ok
  iterate _ := obeys_get.bind fun _ => obeys_pure _
  request _ := (obeys_newCoroutine _).bind fun _ => obeys_newTask _ none
  progress _ := obeys_get.bind fun _ => obeys_pure _
  listen _ := obeys_listen _ _
  ignore _ := obeys_ignore _ _
  wake w := by
    refine obeys_get.bind fun s => ?_
    split
    · exact obeys_complete _ C.wakes
    · exact obeys_pure _
  dispose v := by
    unfold surroundings
    dsimp only
    split
    · exact (obeys_closeCoroutine _).run
    · exact obeys_pure _
  normalize _ := obeys_get.bind fun _ => obeys_pure _

theorem obeys_onStream {α : Type} (id : Nat)
    {op : Surroundings (StateM Store) → StreamM (StateM Store) α}
    (ho : Obeys C (op (surroundings id))) : Obeys C (onStream id op) := by
  refine Act.obeys_get.bind fun s => ?_
  split
  · exact Act.obeys_fail _
  · next st _ =>
    refine (Act.obeys_always (ho _)).bind fun r => ?_
    exact .bind (Act.obeys_setStreams (·.setIfInBounds id r.2)) fun _ => Act.obeys_ofExcept _

end Store

end StreamTemplate
