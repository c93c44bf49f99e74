import StreamTemplate.Proofs.Render.Modes
import StreamTemplate.Proofs.Render.Trace
import StreamTemplate.Proofs.Stream.LastWord

/-!
# The end of a body that a tag has failed

A fault raised in a tag is the last thing that the nodes of a body do. The stream is then closed with
it, or with a report of it, and whoever goes on with the stream gets what was appended before, in
order, and only then that fault; unless one of the sources fails first, whose fault they get instead.
-/

namespace StreamTemplate

open Program
open Pull (Call)

/-! ### Streams that are closed with a fault -/

/-- What is to come of a stream that has accepted these sources and was closed with the fault `last`:
the sources stay the same, what has been returned is the first part of what they emit, in order, and
no pull has come to a plain end. Each call that goes on delivers a chunk, waits for a source, or
raises the fault or that of a source. -/
structure Tells (id : Nat) (sources : List Source) (last : Fault) (l : EventLoop) (g : Ledger) :
    Prop where
  sources : g.accepted.map (·.source) = sources
  inOrder : List.Forall₂ Emits
    ((g.accepted.flatMap (·.emissions l.store)).take g.returned.length) g.returned
  unended : g.ended = false
  comes : ∀ st a r s, l.store.streams[id]? = some st → ¬ st.Stopped → st.Unhindered l.store →
    a ∈ g.calls → l.store.dequeue = some (r, s) → a.GoesOn id st l r →
    a.Comes id last l g (EventLoop.dispatch r { l with store := s })
      (g.turn id a l.store (EventLoop.dispatch r { l with store := s }).store)

theorem Course.tells {id : Nat} {l : EventLoop} {g : Ledger} {last : Fault} (h : Course id l g)
    (closed : g.closing = some (some last)) :
    Tells id (g.accepted.map (·.source)) last l g where
  sources := rfl
  inOrder := by
    obtain ⟨st, done, -, order, -⟩ := h.pace
    exact order.emits_take (.refl _)
  unended := by
    obtain ⟨st, done, -, order, -⟩ := h.pace
    rw [Bool.eq_false_iff]
    intro ended
    obtain ⟨plainly, -⟩ := order.place.of_ended (order.ended ended)
    cases closed.symm.trans plainly
  comes st a r s stream going free call next goes := h.comes closed stream going free call next goes rfl

/-- The store once a stream has been closed with a fault. -/
def Store.shut (s : Store) (id : Nat) (fault : Fault) : Store :=
  ((Store.onStream id (ChunkStream.close · (some fault))).run.run s).2

/-- Closing the stream of a course, and making another render context current, takes the course on. -/
theorem Course.shut {id : Nat} {l : EventLoop} {g : Ledger} (h : Course id l g) (last : Fault)
    (context : Option Nat) :
    Course id { l with store := { l.store.shut id last with context } } (g.close (some last)) := by
  have closed := h.next (.close (some last))
  obtain ⟨st, done, standing, -, -⟩ := closed.pace
  exact closed.next (.outside ⟨rfl, .of_same rfl rfl rfl, fun _ _ => rfl, standing.waiting⟩)

namespace Render

variable {e : Engine} {r : Render} {s s₁ s' : Store} {context : Nat} {before : Option Nat}
  {raised last : Fault} {text : String} {ρ ρ' : RenderState} {t : Trace}

/-! ### The nodes -/

/-- Runs the nodes of the body, labelled, and takes down what they do. -/
def tracedNodes (r : Render) (e : Engine) (context : Nat) :
    ExceptT Fault (StateT Trace Rendering) Flow :=
  runNodes (Rendering.machine e r context).traced r.template.compiled.isAsync patience
    (ownedNodes r.template.compiled.body)

/-- The nodes of the body, run from the store `s`, raise a fault, and leave the names and the store so.
The trace takes down what they did: that failed, and nothing before. -/
structure Breaks (r : Render) (e : Engine) (s : Store) (raised : Fault) (ρ : RenderState)
    (s₁ : Store) (t : Trace) : Prop where
  runs : (r.nodes e s.contexts.size { scope := r.scope }).Runs (r.begun s) (.error raised, ρ) s₁
  traced : (r.tracedNodes e s.contexts.size {} { scope := r.scope }).Runs (r.begun s)
    ((.error raised, t), ρ) s₁
  last : ∃ done, t.events = done ++ [(t.now, true)] ∧ ∀ p ∈ done, p.2 = false

/-- Nodes that raise something break off there. -/
theorem breaks (h : (r.nodes e s.contexts.size { scope := r.scope }).Runs (r.begun s)
    (.error raised, ρ) s₁) : ∃ t, r.Breaks e s raised ρ s₁ t := by
  obtain ⟨_, t, traced, -, continues⟩ := Traces.nodes (Rendering.machine e r _).shows_true
    r.template.compiled.isAsync patience r.template.compiled.body {} _ _ _ _ _ trivial (.inl rfl)
    trivial (Process.runsAmid_true.mpr h)
  cases continues with
  | broken events each =>
    exact ⟨t, h, Process.runsAmid_true.mp traced, _, events, fun p mem => (each p mem).2⟩

/-! ### The end -/

/-- The fault that the stream is closed with on account of one that was raised in a tag and has that
text, with what the context and the state of the render were then. -/
def lastWord (s : Store) (context : Nat) (ρ : RenderState) (raised : Fault) (text : String) : Fault :=
  if raised.isA .template then raised
  else .render (((s.contexts[context]?).getD {}).report ρ.tag raised text) none (some raised)

theorem explain_eq_lastWord (told : s.heap.faultText s.palette raised = .ok text) :
    ((s.contexts[context]?).getD {}).explain s.heap s.palette ρ.tag raised =
      .ok (lastWord s context ρ raised text) := by
  unfold RenderContext.explain lastWord
  split
  · rfl
  · rw [told]
    rfl

theorem lastWord_not_stopIteration (other : ¬ raised.isA .stopIteration) :
    ¬ (lastWord s context ρ raised text).isA .stopIteration := by
  unfold lastWord
  split
  · exact other
  · show ¬ FaultClass.isA .templateRuntime .stopIteration
    decide

/-- A body that an ordinary fault has left closes its stream with the last word and makes the render
context from before current again. -/
theorem ends_with_lastWord {waits : Bool} {result : Except Fault Unit}
    (ordinary : raised.isOrdinary) (told : s₁.heap.faultText s₁.palette raised = .ok text)
    (h : (endWithFault (Rendering.stage r context before) waits raised ρ).Runs s₁ (result, ρ') s') :
    result = .ok () ∧
      s' = { s₁.shut r.stream (lastWord s₁ context ρ raised text) with context := before } := by
  unfold endWithFault at h
  rw [if_pos ordinary] at h
  obtain ⟨⟨explained, ρ₁⟩, s₂, explaining, rest⟩ := h.of_bind
  obtain ⟨⟨state, ρ₂⟩, s₃, first, explaining⟩ := explaining.of_bind
  cases first
  obtain ⟨rfl, explains⟩ := of_store explaining
  obtain ⟨rfl, rfl⟩ := Prod.mk.inj explains
  rw [explain_eq_lastWord told] at rest
  obtain ⟨⟨_, ρ₂⟩, s₃, closing, rest⟩ := rest.of_bind
  obtain ⟨⟨_, ρ₃⟩, s₄, leaving, rest⟩ := rest.of_bind
  cases rest
  obtain ⟨rfl, closed⟩ := of_store closing
  obtain rfl : s₃ = s₂.shut r.stream _ := (Prod.mk.inj closed).2
  exact ⟨rfl, of_leaveContext leaving⟩

/-- However the body of a render runs: either its nodes go to their end, or something done in a tag
raises a fault, and that is the last thing that they do. Unless it is a cancellation, the signal for
the end of a loop, or a fault whose text cannot be got, nothing leaves the body, and the stream is
closed with the last word, if it was open until then. Whatever happens after that, everything that was
appended before comes out in order, and only then the last word, unless a source fails first. -/
theorem fault_ends_output {result : Except Fault Unit} (h : (r.run e).run.Runs s result s') :
    (∃ flow ρ s₁, (r.nodes e s.contexts.size { scope := r.scope }).Runs (r.begun s) (.ok flow, ρ) s₁) ∨
    ∃ raised ρ s₁ t, r.Breaks e s raised ρ s₁ t ∧
      (raised.isOrdinary → ¬ raised.isA .stopIteration →
        ∀ text, s₁.heap.faultText s₁.palette raised = .ok text →
        ∃ last, last = lastWord s₁ s.contexts.size ρ raised text ∧ leavingCoroutine last = last ∧
          result = .ok () ∧
          ∀ l g, Course r.stream l g → l.store = s₁ → g.closing = none →
            ∀ l₂ g₂, Onward r.stream { l with store := s' } (g.close (some last)) l₂ g₂ →
              Tells r.stream (g.accepted.map (·.source)) last l₂ g₂) := by
  obtain ⟨left, ρ, s₁, nodes, -, fails⟩ := runs_nodes h
  cases left with
  | ok flow => exact .inl ⟨flow, ρ, s₁, nodes⟩
  | error raised =>
    obtain ⟨t, breaks⟩ := breaks nodes
    refine .inr ⟨raised, ρ, s₁, t, breaks, fun ordinary other text told => ?_⟩
    obtain ⟨ρ', ending⟩ := fails raised rfl
    rw [leavingBody_of_other other] at ending
    obtain ⟨rfl, rfl⟩ := ends_with_lastWord ordinary told ending
    refine ⟨_, rfl, if_neg (lastWord_not_stopIteration other), rfl, ?_⟩
    rintro l g course rfl opened l₂ g₂ onward
    have closed : (g.close (some (lastWord l.store s.contexts.size ρ raised text))).closing =
        some (some (lastWord l.store s.contexts.size ρ raised text)) := by
      unfold Ledger.close
      rw [opened]
      rfl
    obtain ⟨closed', sources⟩ := onward.of_closed closed
    have tells := (onward.course (course.shut _ _)).tells closed'
    rwa [sources] at tells

/-- A render of a text and of a name without a value. -/
def abrupt : Render :=
  withData ⟨none, none, "", ⟨[], [.literal ⟨1, 0⟩ "a",
    .output ⟨1, 1⟩ true "x" (.expression (.name "x" 1)) "<%= x %>"], false⟩, {}⟩ []

/-- The text is to come out, and then the report of the name. -/
theorem abrupt_tells : ∃ s' l g last, (abrupt.run mainEngine).run.Runs oneStream (.ok ()) s' ∧
    Course 0 l g ∧ last.cause?.map Fault.cls = some .name ∧
    Tells 0 [⟨.literal, .text "a"⟩] last { l with store := s' } (g.close (some last)) := by
  obtain ⟨s', ran⟩ : ∃ s', (abrupt.run mainEngine).run.run oneStream = (.done (.ok ()), s') :=
    ⟨_, rfl⟩
  rcases fault_ends_output (.of_run ran) with ⟨flow, ρ, s₁, nodes⟩ | ⟨raised, ρ, s₁, t, breaks, tells⟩
  · cases (nodes.unique rfl).1
  · obtain ⟨same, store⟩ := breaks.runs.unique rfl
    cases same
    obtain ⟨last, rfl, -, -, comes⟩ := tells rfl (by decide) _ rfl
    have opened : Course 0 _ _ := .start (l := {}) rfl nofun
    have pushed := opened.next (.push (.text "a") nofun)
    have reached : Course 0 { store := s₁ } { accepted := [{ source := ⟨.literal, .text "a"⟩ }] } := by
      refine pushed.next (.outside ?_)
      rw [store]
      exact ⟨rfl, .of_same rfl rfl rfl, nofun, nofun⟩
    exact ⟨s', _, _, _, .of_run ran, reached, rfl, comes _ _ reached rfl rfl _ _ .here⟩

/-- A store with one stream and a coroutine that closes it. -/
def withCloser : Store :=
  { oneStream with coroutines := #[{ body := .script [.close none] }], stream := some 0 }

/-- A render of a text, of something to be awaited and of a name without a value. -/
def overtaken : Render :=
  withData ⟨none, none, "", ⟨[], [.literal ⟨1, 0⟩ "a",
    .simple ⟨1, 1⟩ "await s" (.expression (.await (.name "s" 1) 1)) "<% await s %>",
    .simple ⟨1, 14⟩ "boom" (.expression (.name "boom" 1)) "<% boom %>"], true⟩,
    { enableAsync := true }⟩ [("s", .process .coroutine 0)]

/-- Where what is awaited has closed the stream before a tag fails, nobody is told of the fault: who
reads the stream to its end gets the text and nothing else. -/
theorem closed_first : ∃ ρ s₁ s' s₂ id,
    (overtaken.nodes mainEngine 0 { scope := overtaken.scope }).Runs (overtaken.begun withCloser)
      (.error (.unbound "boom"), ρ) s₁ ∧
    (overtaken.run mainEngine).run.Runs withCloser (.ok ()) s' ∧
    (consume 0 .collect).run.Runs s' (.ok (.cell .list id)) s₂ ∧
    (s₂.heap.list id).toList = [.text "a"] :=
  ⟨_, _, _, _, _, .of_run rfl, .of_run rfl, .of_run rfl, rfl⟩

end Render

end StreamTemplate
