import StreamTemplate.Proofs.Render.Discreet
import StreamTemplate.Proofs.Render.Terminal

/-!
# The tag that a report names

A report of a fault names the line and the tag of the instruction that was entered last, and while
code runs the render context shows that line. The code that failed belongs to that instruction, unless it
was to give a loop an item behind the first one: a loop over items is not entered again after a round
of its body. The conditions of all clauses of an instruction belong to that instruction.

The body runs here among others that leave its render context alone while it waits. What the event loop
does meanwhile is such: `EventLoop.Passes.keeps`.
-/

namespace StreamTemplate

open Program

namespace Render

variable {e : Engine} {r : Render} {s s₁ s' : Store} {context : Nat} {spot : Spot} {raised : Fault}
  {text : String} {ρ ρ' : RenderState} {t : Trace}

/-! ### What shows of the instruction that was entered last -/

/-- The state of a render and its render context show an instruction. -/
structure Displays (r : Render) (context : Nat) (spot : Spot) (ρ : RenderState) (s : Store) : Prop where
  tag : ρ.tag = spot.tag
  site : ρ.site = spot.site
  context : s.contexts[context]? = some { r.template.context with line := spot.site.line }

theorem Displays.lt (h : r.Displays context spot ρ s) : context < s.contexts.size :=
  (Array.getElem?_eq_some_iff.mp h.context).1

/-- What is discreet changes nothing that shows. -/
theorem keeps_displays {α : Type} {x : Rendering α} (hx : Discreet x) (spot : Spot) :
    Keeps (Store.LeavesContext context) (r.Displays context spot) x := by
  intro ρ s a ρ' s' shown run
  obtain ⟨leaves, tag, site⟩ := (hx ρ (fun _ => False) s).of_runsAmid shown.lt id run
  exact ⟨tag.trans shown.tag, site.trans shown.site, leaves _ shown.context⟩

theorem shows_machine (he : e.Obeys Conduct.discreet) (r : Render) :
    (Rendering.machine e r context).Shows (Store.LeavesContext context) (r.Displays context) := by
  have discreet := (Rendering.obeys_machine he r context).discreet
  constructor
  case enter =>
    intro site tag spot ρ s ρ' s' shown run
    obtain ⟨⟨_, ρ₁⟩, s₁, first, second⟩ := run.of_bind
    cases first
    obtain ⟨rfl, noted⟩ := of_store second.runs
    obtain rfl := (Prod.mk.inj noted).2
    refine ⟨rfl, rfl, ?_⟩
    show (s.contexts.modify context _)[context]? = _
    rw [Array.getElem?_modify, if_pos rfl, shown.context]
    rfl
  case evaluate => exact fun c => keeps_displays (discreet.evaluate c).run
  case execute => exact fun c => keeps_displays (discreet.execute c).run
  case assign => exact fun c => keeps_displays (discreet.assign c).run
  case truth => exact fun v => keeps_displays (discreet.truth v)
  case cursor => exact fun isAsync v => keeps_displays (discreet.cursor isAsync v).run
  case advance => exact fun c => keeps_displays (discreet.advance c).run
  case setItem => exact fun v => keeps_displays (discreet.setItem v)
  case dropItem => exact keeps_displays discreet.dropItem
  case literal => exact fun text => keeps_displays (discreet.literal text).run
  case output => exact fun escaped v => keeps_displays (discreet.output escaped v).run
  case stuck => exact keeps_displays discreet.stuck

/-! ### Failures -/

/-- The nodes of the body, run from the store `s` among others that leave the render context alone,
raise a fault, and leave the names and the store so. The trace takes down what they did: that failed,
and nothing before. -/
structure Fails (r : Render) (e : Engine) (s : Store) (raised : Fault) (ρ : RenderState) (s₁ : Store)
    (t : Trace) : Prop where
  traced : (r.tracedNodes e s.contexts.size {} { scope := r.scope }).RunsAmid
    (Store.LeavesContext s.contexts.size) (r.begun s) ((.error raised, t), ρ) s₁
  last : ∃ done, t.events = done ++ [(t.now, true)] ∧ ∀ p ∈ done, p.1.Faithful ∧ p.2 = false

/-- A run of a body: its nodes run, in a new render context, and if they raise a fault the body ends
with what that is outside. -/
theorem of_run {J : Store → Store → Prop} {result : Except Fault Unit}
    (h : (r.run e).run.RunsAmid J s result s') :
    ∃ left ρ s₁, (r.nodes e s.contexts.size { scope := r.scope }).RunsAmid J (r.begun s) (left, ρ) s₁ ∧
      ∀ raised, left = .error raised → ∃ ρ', (endWithFault
        (Rendering.stage r s.contexts.size s.context) r.template.compiled.isAsync
        (leavingBody r.template.compiled.isAsync raised) ρ).RunsAmid J s₁ (result, ρ') s' := by
  obtain ⟨context, s₁, making, h⟩ := h.of_bind
  obtain ⟨rfl, rfl⟩ := Prod.mk.inj making.runs.of_ofState
  obtain ⟨current, s₂, reading, h⟩ := h.of_bind
  obtain ⟨rfl, rfl⟩ := Prod.mk.inj reading.runs.of_ofState
  obtain ⟨⟨ended, ρ'⟩, s₃, body, h⟩ := h.of_bind
  cases h
  obtain ⟨⟨_, ρ₁⟩, s₄, entering, body⟩ := body.of_bind
  obtain ⟨rfl, began⟩ := of_store entering.runs
  obtain rfl : s₄ = r.begun s := (Prod.mk.inj began).2
  obtain ⟨⟨left, ρ⟩, s₅, nodes, body⟩ := body.of_bind
  refine ⟨left, ρ, s₅, nodes, ?_⟩
  rintro raised rfl
  exact ⟨ρ', body⟩

/-- Nodes that raise a fault fail in the code of the instruction that was entered last, unless it was to
give a loop an item behind the first one, and that instruction shows. -/
theorem fails (he : e.Obeys Conduct.discreet)
    (h : (r.nodes e s.contexts.size { scope := r.scope }).RunsAmid
      (Store.LeavesContext s.contexts.size) (r.begun s) (.error raised, ρ) s₁) :
    ∃ t, r.Fails e s raised ρ s₁ t ∧ t.now.Faithful ∧
      r.Displays s.contexts.size t.now.entered ρ s₁ := by
  have displays : r.Displays s.contexts.size ({} : Trace).now.entered { scope := r.scope }
      (r.begun s) := by
    refine ⟨rfl, rfl, ?_⟩
    show (s.contexts.push _)[s.contexts.size]? = _
    rw [Array.getElem?_push_size]
    rfl
  obtain ⟨_, t, traced, shown, continues⟩ := Traces.nodes (shows_machine he r)
    r.template.compiled.isAsync patience r.template.compiled.body {} _ _ _ _ _ trivial (.inl rfl)
    displays h
  cases continues with
  | broken events each now => exact ⟨t, ⟨traced, _, events, each⟩, now, shown⟩

/-- However the body of a render runs among others that leave its render context alone: either its
nodes go to their end, or code in a tag raises a fault. The instruction that was entered last is the
one that the code belongs to, unless that was to give a loop an item behind the first one; while the
code ran the render context showed its line; and a report of the fault, with which the stream is
closed, gives its line and its tag. -/
theorem report_of_entered {depth : Nat} {result : Except Fault Unit}
    (h : (r.run (engine depth)).run.RunsAmid (Store.LeavesContext s.contexts.size) s result s') :
    (∃ flow ρ s₁, (r.nodes (engine depth) s.contexts.size { scope := r.scope }).RunsAmid
      (Store.LeavesContext s.contexts.size) (r.begun s) (.ok flow, ρ) s₁) ∨
    ∃ raised ρ s₁ t, r.Fails (engine depth) s raised ρ s₁ t ∧ t.now.Faithful ∧
      r.Displays s.contexts.size t.now.entered ρ s₁ ∧
      (Rendering.machine (engine depth) r s.contexts.size).Discreet ∧
      ∀ fault, fault = leavingBody r.template.compiled.isAsync raised → fault.isOrdinary →
        ¬ fault.isA .template → ∀ text, s₁.heap.faultText s₁.palette fault = .ok text →
        ∃ report : Diagnostic.RenderReport, report.expression = t.now.entered.tag ∧
          report.line = Diagnostic.givenLine (some t.now.entered.site.line) ∧
          result = .ok () ∧
          s' = { s₁.shut r.stream (.render report none (some fault)) with context := s.context } := by
  obtain ⟨left, ρ, s₁, nodes, ending⟩ := of_run h
  cases left with
  | ok flow => exact .inl ⟨flow, ρ, s₁, nodes⟩
  | error raised =>
    obtain ⟨t, failed, faithful, shown⟩ := fails (obeys_engine depth) nodes
    refine .inr ⟨raised, ρ, s₁, t, failed, faithful, shown,
      (Rendering.obeys_machine (obeys_engine depth) r _).discreet, ?_⟩
    intro fault leaves ordinary other text told
    obtain ⟨ρ', ended⟩ := ending raised rfl
    rw [← leaves] at ended
    obtain ⟨rfl, rfl⟩ := ends_with_lastWord ordinary told ended.runs
    refine ⟨((s₁.contexts[s.contexts.size]?).getD {}).report ρ.tag fault text, shown.tag, ?_, rfl, ?_⟩
    · rw [shown.context]
      rfl
    · unfold lastWord
      rw [if_neg other]

/-- A render of a loop over two items, with a name without a value in its body. -/
def stumbling : Render :=
  withData ⟨none, none, "", ⟨[], [.forLoop ⟨1, 0⟩ false (.target (.name "x" 1))
    (.expression (.tuple [.literal (.int 1) 1, .literal (.int 2) 1] 1))
    [.output ⟨2, 0⟩ true "boom" (.expression (.name "boom" 1)) "<%= boom %>"]
    "<% for x in (1, 2): %>"], false⟩, {}⟩ []

/-- The report gives the line and the tag of the output in the body. -/
theorem stumbling_reported : ∃ (s₁ s' : Store) (report : Diagnostic.RenderReport),
    (stumbling.run mainEngine).run.RunsAmid (Store.LeavesContext 0) oneStream (.ok ()) s' ∧
    s' = { s₁.shut 0 (.render report none (some (.unbound "boom"))) with context := none } ∧
    report.expression = some "<%= boom %>" ∧ report.line = some 2 := by
  obtain ⟨s', ran⟩ : ∃ s', (stumbling.run mainEngine).run.run oneStream = (.done (.ok ()), s') :=
    ⟨_, rfl⟩
  have runs : (stumbling.run mainEngine).run.RunsAmid (Store.LeavesContext oneStream.contexts.size)
      oneStream (.ok ()) s' := .of_run ran
  rcases report_of_entered runs with ⟨flow, ρ, s₁, nodes⟩ | ⟨raised, ρ, s₁, t, failed, -, -, -, told⟩
  · cases (nodes.runs.unique rfl).1
  · obtain ⟨same, store⟩ := failed.traced.runs.unique rfl
    cases same
    obtain ⟨report, expression, line, -, ended⟩ := told _ rfl rfl (by decide) _ rfl
    exact ⟨s₁, s', report, runs, ended, expression, line⟩

end Render

end StreamTemplate
