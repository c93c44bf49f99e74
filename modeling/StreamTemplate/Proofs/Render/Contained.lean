import StreamTemplate.Proofs.Loop.Pull
import StreamTemplate.Proofs.Program.Pieces
import StreamTemplate.Proofs.Render.Outcome

/-!
# What leaves a render

A fault raised in a tag ends the body, and the stream of the render is closed with it, so whoever
started the render hears of it from the stream only. A cancellation of a body that may wait is passed
on as well. Two kinds of faults escape: one whose text cannot be got, and a cancellation in a body
that may not wait. Both leave the stream open.
-/

namespace StreamTemplate

open Program

namespace Process

variable {σ α β : Type}

/-- Complete runs of a process, from a state to a result and a state. Whenever the process waits, the
state may become anything, and a fault may be thrown into the process. -/
inductive Runs : Process σ α → σ → α → σ → Prop
  | done {a s} : Runs (done a) s a s
  | act {γ : Type} {x : StateM σ γ} {k s a s'} (rest : Runs (k (x.run s).1) (x.run s).2 a s') :
      Runs (act x k) s a s'
  | wait {w k thrown s s₁ a s'} (rest : Runs (k thrown) s₁ a s') : Runs (wait w k) s a s'

/-- A run of a process that goes on with another one is a run of the first and one of the second. -/
theorem Runs.of_bind {p : Process σ α} {f : α → Process σ β} {s s' : σ} {b : β}
    (h : (p >>= f).Runs s b s') : ∃ a s₁, p.Runs s a s₁ ∧ (f a).Runs s₁ b s' := by
  induction p generalizing s with
  | done a => exact ⟨a, s, .done, h⟩
  | stuck => cases h
  | act x k ih =>
    cases h with
    | act rest =>
      obtain ⟨a, s₁, first, second⟩ := ih _ rest
      exact ⟨a, s₁, .act first, second⟩
  | wait w k ih =>
    cases h with
    | wait rest =>
      obtain ⟨a, s₁, first, second⟩ := ih _ rest
      exact ⟨a, s₁, .wait first, second⟩

theorem Runs.of_ofState {x : StateM σ α} {s s' : σ} {a : α} (h : (ofState x).Runs s a s') :
    (a, s') = x.run s := by
  cases h with
  | act rest => cases rest; rfl

/-- What ends without a wait is a complete run. -/
theorem Runs.of_run {p : Process σ α} {s s' : σ} {a : α} (h : p.run s = (.done a, s')) :
    p.Runs s a s' := by
  induction p generalizing s with
  | done => cases h; exact .done
  | stuck | wait => cases h
  | act x k ih => exact .act (ih _ h)

/-- A process that ends without a wait has no other complete run. -/
theorem Runs.unique {p : Process σ α} {s s₁ s' : σ} {a b : α} (runs : p.Runs s b s')
    (h : p.run s = (.done a, s₁)) : b = a ∧ s' = s₁ := by
  induction runs with
  | done =>
    cases h
    exact ⟨rfl, rfl⟩
  | act _ ih => exact ih h
  | wait => cases h

end Process

namespace Render

/-- The stream of the render is closed. -/
def Closed (r : Render) (s : Store) : Prop :=
  ∀ st, s.streams[r.stream]? = some st → st.closed = true

/-- The body does not run at once but on a later turn of the loop or as a task. -/
def Scheduled (r : Render) : Prop :=
  r.template.options.enableAsync = true ∨ r.template.options.defer = true

instance (r : Render) : Decidable r.Scheduled :=
  inferInstanceAs (Decidable (_ ∨ _))

/-- The store when the nodes of the body begin to run: a new render context is current. -/
def begun (r : Render) (s : Store) : Store :=
  { s with contexts := s.contexts.push r.template.context, context := some s.contexts.size }

/-- Runs the nodes of the body. -/
def nodes (r : Render) (e : Engine) (context : Nat) : Eval Flow :=
  runNodes (Rendering.machine e r context) r.template.compiled.isAsync patience
    r.template.compiled.body

/-- The nodes of the body, run from the store `s`, end with a fault and leave the store `s₁`. -/
def Raises (r : Render) (e : Engine) (s : Store) (fault : Fault) (s₁ : Store) : Prop :=
  ∃ raised ρ,
    (r.nodes e s.contexts.size { scope := r.scope }).Runs (r.begun s) (.error raised, ρ) s₁ ∧
      fault = leavingBody r.template.compiled.isAsync raised

section

variable {e : Engine} {r : Render} {s s₁ s' : Store} {context : Nat} {before : Option Nat}

theorem Closed.congr (h : r.Closed s) (same : s'.streams = s.streams) : r.Closed s' := by
  unfold Closed
  rw [same]
  exact h

/-- After closing a stream is closed. -/
theorem closed_close (r : Render) (fault : Option Fault) (s : Store) :
    r.Closed ((discard (Store.onStream r.stream (ChunkStream.close · fault)).run).run s).2 := by
  have run : ((discard (Store.onStream r.stream (ChunkStream.close · fault)).run).run s).2 =
      ((Store.onStream r.stream (ChunkStream.close · fault)).run s).2 := rfl
  rw [run]
  rcases h : s.streams[r.stream]? with _ | st
  · rw [Store.onStream_eq, h]
    intro st known
    exact nomatch h.symm.trans known
  · obtain ⟨result, st', s', does⟩ : ∃ result st' s',
      (ChunkStream.close (Store.surroundings r.stream) fault).does st s = (result, st', s') :=
      ⟨_, _, _, rfl⟩
    have closed : st'.closed = true := by
      cases ChunkStream.closes_of_does does with
      | again closed => exact closed
      | first => rfl
    rw [Store.run_onStream _ h, does]
    intro st₁ known
    have known' : (s'.streams.setIfInBounds r.stream st')[r.stream]? = some st₁ := known
    rw [Array.getElem?_setIfInBounds, if_pos rfl, Option.ite_none_right_eq_some] at known'
    exact Option.some.inj known'.2 ▸ closed

/-! ### The end of a body -/

/-- Something that does not wait and cannot fail has happened. -/
theorem of_store {α : Type} {x : StateM Store α} {ρ ρ' : RenderState} {a : α}
    (h : (Rendering.store x ρ).Runs s (a, ρ') s') : ρ' = ρ ∧ (a, s') = x.run s := by
  obtain ⟨a', s₁, first, second⟩ := h.of_bind
  have run := first.of_ofState
  cases second
  exact ⟨rfl, run⟩

theorem of_leaveContext {ρ ρ' : RenderState}
    (h : ((Rendering.stage r context before).leaveContext ρ).Runs s ((), ρ') s') :
    s' = { s with context := before } :=
  (Prod.mk.inj (of_store h).2).2

theorem of_close {fault : Option Fault} {ρ ρ' : RenderState}
    (h : ((Rendering.stage r context before).close fault ρ).Runs s ((), ρ') s') : r.Closed s' := by
  have closed := closed_close r fault s
  rwa [← (of_store h).2] at closed

/-- A run of a body: its nodes run, in a new render context. If they go to their end, the stream is closed
and the body raises nothing; if they raise a fault, the body ends with what that is outside. -/
theorem runs_nodes {result : Except Fault Unit} (h : (r.run e).run.Runs s result s') :
    ∃ left ρ s₁, (r.nodes e s.contexts.size { scope := r.scope }).Runs (r.begun s) (left, ρ) s₁ ∧
      (∀ flow, left = .ok flow → result = .ok () ∧ r.Closed s') ∧
      ∀ raised, left = .error raised → ∃ ρ', (endWithFault
        (Rendering.stage r s.contexts.size s.context) r.template.compiled.isAsync
        (leavingBody r.template.compiled.isAsync raised) ρ).Runs s₁ (result, ρ') s' := by
  -- The run is taken apart in the order in which the body is written: the context, the nodes, the end.
  obtain ⟨context, s₁, making, h⟩ := h.of_bind
  obtain ⟨rfl, rfl⟩ := Prod.mk.inj making.of_ofState
  obtain ⟨current, s₂, reading, h⟩ := h.of_bind
  obtain ⟨rfl, rfl⟩ := Prod.mk.inj reading.of_ofState
  obtain ⟨⟨ended, ρ⟩, s₃, body, h⟩ := h.of_bind
  cases h
  obtain ⟨⟨_, ρ₁⟩, s₄, entering, body⟩ := body.of_bind
  obtain ⟨rfl, began⟩ := of_store entering
  obtain rfl : s₄ = r.begun s := (Prod.mk.inj began).2
  obtain ⟨⟨left, ρ₂⟩, s₅, nodes, body⟩ := body.of_bind
  refine ⟨left, ρ₂, s₅, nodes, ?_, ?_⟩
  · rintro flow rfl
    obtain ⟨⟨_, ρ₃⟩, s₆, -, body⟩ := body.of_bind
    obtain ⟨⟨_, ρ₄⟩, s₇, closing, body⟩ := body.of_bind
    cases body
    exact ⟨rfl, of_close closing⟩
  · rintro raised rfl
    exact ⟨ρ, body⟩

/-- A body that is not scheduled runs at once. -/
theorem start_of_not_scheduled (h : ¬r.Scheduled) (e : Engine) (hasLoop : Bool) :
    r.start e hasLoop = r.run e := by
  have modes : (r.template.options.enableAsync || r.template.options.defer) = false := by
    simpa [Scheduled] using h
  unfold start
  dsimp only
  rw [modes]
  rfl

end

end Render

end StreamTemplate
