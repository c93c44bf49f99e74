import StreamTemplate.Render.Start

/-!
# Bodies that are run by themselves

The body of a render with the names that it leaves, and in short what has become of it. Templates can
be made and bodies run by evaluation.
-/

namespace StreamTemplate

/-- What holds of the template found by making it holds of a template that can be made. -/
theorem Template.exists_made {source : String} {name filename : Option String}
    {options : RenderOptions} {P : Template → Prop}
    (h : ∃ t ∈ (make source name filename options).toOption, P t) :
    ∃ t, make source name filename options = .ok t ∧ P t := by
  obtain ⟨t, found, has⟩ := h
  cases made : make source name filename options with
  | error =>
    rw [made] at found
    cases found
  | ok =>
    rw [made] at found
    cases found
    exact ⟨_, rfl, has⟩

/-- The class of the fault raised in a tag, if the stream was closed on account of one. -/
def ChunkStream.reported (st : ChunkStream) : Option FaultClass :=
  (st.closeFault.bind Fault.cause?).map Fault.cls

namespace Render

/-- A render into the first stream. -/
def withData (template : Template) (data : List (String × Value)) : Render :=
  { template, scope := Scope.initial.setAll data, stream := 0 }

/-- A store with one stream. -/
def oneStream : Store where
  streams := #[{}]

/-- Runs the body of a render. The result is the fault that leaves the render and the state in which
the names are left. -/
def body (r : Render) (e : Engine) : Process Store (Except Fault Unit × RenderState) := do
  let context ← Process.ofState (Store.newContext r.template.context)
  let before := (← Process.ofState get).context
  (runBody (Rendering.machine e r context) (Rendering.stage r context before)
    r.template.compiled.isAsync patience r.template.compiled.body).run { scope := r.scope }

theorem run_eq_body (e : Engine) (r : Render) : (r.run e).run = Prod.fst <$> r.body e :=
  rfl

/-- What has become of a body. -/
structure Outcome where
  /-- The class of the fault that leaves the render. -/
  raised : Option FaultClass := none
  /-- The number of sources of the stream. -/
  sources : Nat
  /-- The class of the fault that the stream was closed on account of. -/
  reported : Option FaultClass := none
  /-- Whether an item of a loop is current. -/
  current : Bool := false
  deriving DecidableEq

/-- What has become of a body that ended with a result and left its names and its stream so. -/
def Outcome.of (result : Except Fault Unit) (ρ : RenderState) (st : ChunkStream) : Outcome where
  raised := match result with
    | .ok () => none
    | .error fault => some fault.cls
  sources := st.pending
  reported := st.reported
  current := (ρ.scope.find? loopItem).isSome

/-- What becomes of the body when it is run from the store `s` and does not wait. -/
def outcome (r : Render) (e : Engine) (s : Store) : Option Outcome :=
  match (r.body e).run s with
  | (.done (result, ρ), s') => s'.streams[r.stream]?.map (Outcome.of result ρ)
  | _ => none

section

variable {r : Render} {e : Engine} {s : Store} {o : Outcome}

theorem run_of_outcome (h : r.outcome e s = some o) :
    ∃ result ρ s' st, (r.body e).run s = (.done (result, ρ), s') ∧
      s'.streams[r.stream]? = some st ∧ o = .of result ρ st := by
  unfold outcome at h
  split at h
  · next result ρ s' run =>
    obtain ⟨st, known, rfl⟩ := Option.map_eq_some_iff.mp h
    exact ⟨result, ρ, s', st, run, known, rfl⟩
  · cases h

theorem Outcome.ok_of_raised {result : Except Fault Unit} {ρ : RenderState} {st : ChunkStream}
    (h : (of result ρ st).raised = none) : result = .ok () := by
  cases result with
  | ok => rfl
  | error => cases h

end

end Render

end StreamTemplate
