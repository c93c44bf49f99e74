import StreamTemplate.Proofs.Program.Lenient
import StreamTemplate.Proofs.Program.Unfold
import StreamTemplate.Proofs.Render.Contained
import StreamTemplate.Proofs.Render.Last
import StreamTemplate.Proofs.Render.Nested
import StreamTemplate.Proofs.Render.Waitless

/-!
# Ways to run a body

A template whose tags do not wait can be run by code that may wait as well as by code that may not.
-/

namespace StreamTemplate

open Program Tag

universe u

/-! ### The nodes of a body -/

section

variable {α β : Type} {R : α → α → Prop} {x y : Eval α}

theorem Same.store (a : StateM Store α) :
    Same (ExceptT.lift (Rendering.store a)) (ExceptT.lift (Rendering.store a)) :=
  fun _ => .act _ fun _ => .done (.result rfl)

variable {e e' : Engine} {r r' : Render} {context : Nat}

/-- Two renders append to the same stream, and escape alike. -/
structure Render.Matches (r r' : Render) : Prop where
  stream : r'.stream = r.stream
  escape : r'.template.options.escape = r.template.options.escape

theorem Same.enter (site : Site) (tag : Option String) :
    Same (ExceptT.lift ((Rendering.machine e r context).enter site tag))
      (ExceptT.lift ((Rendering.machine e' r' context).enter site tag)) :=
  fun _ => .act _ fun _ => .done (.result rfl)

theorem Same.setItem (v : Value) :
    Same (ExceptT.lift ((Rendering.machine e r context).setItem v))
      (ExceptT.lift ((Rendering.machine e' r' context).setItem v)) :=
  fun _ => .done (.result rfl)

theorem Same.literal (alike : r.Matches r') (text : String) :
    Same ((Rendering.machine e r context).literal text)
      ((Rendering.machine e' r' context).literal text) := by
  show Same (Eval.act (pushChunk r.stream _)) (Eval.act (pushChunk r'.stream _))
  rw [alike.stream]
  exact Same.act _

theorem Same.output (alike : r.Matches r') (escaped : Bool) (v : Value) :
    Same ((Rendering.machine e r context).output escaped v)
      ((Rendering.machine e' r' context).output escaped v) := by
  show Same (Eval.act (do
      let escape := r.template.options.escape
      pushChunk r.stream (← if escaped then escapedChunk escape v else rawChunk v)))
    (Eval.act (do
      let escape := r'.template.options.escape
      pushChunk r'.stream (← if escaped then escapedChunk escape v else rawChunk v)))
  rw [alike.stream, alike.escape]
  exact Same.act _

theorem Same.holds {test : Code} (h : test.Waitless) :
    Same (StreamTemplate.holds (Rendering.machine e r context) test)
      (StreamTemplate.holds (Rendering.machine e' r' context) test) :=
  Same.bind (Same.evaluate e e' h) fun _ => Same.store _

/-- Whatever they have come to, no item is current in the end. -/
theorem Alike.ensuring (h : Alike R x y) :
    Alike R (StreamTemplate.ensuring x (Rendering.machine e r context).dropItem)
      (StreamTemplate.ensuring y (Rendering.machine e' r' context).dropItem) := by
  intro s
  refine (h s).bind ?_
  intro a b ends
  cases ends with
  | result r => exact .done (.result r)
  | fault => exact .done .fault
  | @tidied f s =>
    refine .done ?_
    show Ends R (.error f, s.tidy.tidy) (.error f, s.tidy)
    rw [RenderState.tidy_tidy]
    exact .fault

/-- After a fault no item is current in the end. -/
theorem Alike.onFault (h : Alike R x y) :
    Alike R (StreamTemplate.onFault x (Rendering.machine e r context).dropItem) y := by
  intro s
  rw [← bind_pure (y s)]
  refine (h s).bind ?_
  intro a b ends
  cases ends with
  | result r => exact .done (.result r)
  | fault => exact .done .tidied
  | @tidied f s =>
    refine .done ?_
    show Ends R (.error f, s.tidy.tidy) (.error f, s)
    rw [RenderState.tidy_tidy]
    exact .tidied

theorem Same.forEach {target : Code} (ht : target.Waitless) {body body' : Eval Flow}
    (hb : Same body body') (rounds : Nat) {c : Iteration} (hc : c.IsPlain) :
    Same (StreamTemplate.forEach (Rendering.machine e r context) target body rounds c)
      (StreamTemplate.forEach (Rendering.machine e' r' context) target body' rounds c) := by
  induction rounds generalizing c with
  | zero => exact fun _ => .stuck
  | succ rounds ih =>
    refine Alike.bind (Same.advance e e' hc) fun a b h => ?_
    obtain ⟨rfl, plain⟩ := h
    cases a with
    | none => exact Same.pure _
    | some item =>
      refine Same.bind (Same.setItem item.1) fun _ => ?_
      refine Same.bind (Same.execute e e' ht) fun _ => Same.bind hb fun flow => ?_
      cases flow with
      | breakLoop => exact Same.pure _
      | next | continueLoop => exact ih (plain item rfl)

theorem Same.whileTrue {test test' : Eval Bool} (ht : Same test test') {body body' : Eval Flow}
    (hb : Same body body') (site : Site) (tag : Option String) (rounds : Nat) :
    Same (StreamTemplate.whileTrue (Rendering.machine e r context) test body
        ((Rendering.machine e r context).enter site tag) rounds)
      (StreamTemplate.whileTrue (Rendering.machine e' r' context) test' body'
        ((Rendering.machine e' r' context).enter site tag) rounds) := by
  induction rounds with
  | zero => exact fun _ => .stuck
  | succ rounds ih =>
    refine Same.bind ht fun b => ?_
    cases b with
    | false => exact Same.pure _
    | true =>
      refine Same.bind hb fun flow => ?_
      cases flow with
      | breakLoop => exact Same.pure _
      | next | continueLoop => exact Same.bind (Same.enter site tag) fun _ => ih

/-- Code that may wait evaluates what is gone through before it sees to it that no item stays
current. -/
theorem Same.overItems {iter iter' : Eval Value} (hi : Same iter iter')
    {loop loop' : Iteration → Eval Unit} (hl : ∀ c, c.IsPlain → Same (loop c) (loop' c))
    (waits : Bool) :
    Same (StreamTemplate.overItems (Rendering.machine e r context) false false iter loop)
      (StreamTemplate.overItems (Rendering.machine e' r' context) waits false iter' loop') := by
  have goes (v : Value) : Same
      (do loop (← (Rendering.machine e r context).cursor false v))
      (do loop' (← (Rendering.machine e' r' context).cursor false v)) := by
    refine Alike.bind (Same.iteration v) ?_
    rintro c _ ⟨rfl, plain⟩
    exact hl c plain
  cases waits with
  | false => exact Alike.ensuring (Same.bind hi goes)
  | true =>
    -- Seeing to it from the start is the same as dropping the item if the value cannot be got, and
    -- seeing to it from then on.
    unfold StreamTemplate.overItems
    rw [if_neg Bool.false_ne_true, if_pos rfl, ensuring_bind]
    exact Same.bind (Alike.onFault hi) fun v => Alike.ensuring (goes v)

variable {waits : Bool} {rounds : Nat}

theorem Same.nodes {node : Node Code} {rest : List (Node Code)}
    (hn : Same (runNode (Rendering.machine e r context) false rounds node)
      (runNode (Rendering.machine e' r' context) waits rounds node))
    (hr : Same (runNodes (Rendering.machine e r context) false rounds rest)
      (runNodes (Rendering.machine e' r' context) waits rounds rest)) :
    Same (runNodes (Rendering.machine e r context) false rounds (node :: rest))
      (runNodes (Rendering.machine e' r' context) waits rounds (node :: rest)) := by
  rw [runNodes, runNodes]
  refine Same.bind (Same.enter _ _) fun _ => Same.bind hn fun flow => ?_
  cases flow with
  | next => exact hr
  | breakLoop | continueLoop => exact Same.pure _

/-- What is done for a part of a body. -/
def Program.Part.perform {κ γ : Type} {m : Type → Type u} [Monad m] (h : Machine κ γ m) (waits : Bool)
    (rounds : Nat) : Part κ → ExceptT Fault m Flow
  | .nodes list => runNodes h waits rounds list
  | .clauses list => runBranches h waits rounds list

/-- The nodes that a program unfolds from are run alike by code that may wait and by code that may
not, as long as none of its code waits. -/
theorem Same.perform (alike : r.Matches r') {inLoop : Bool}
    {part : Program.Part Code} {seg : List (Instruction Code)} (h : Unfolds inLoop part seg)
    (each : ∀ i ∈ seg, i.Each Code.Waitless) :
    Same (part.perform (Rendering.machine e r context) false rounds)
      (part.perform (Rendering.machine e' r' context) waits rounds) := by
  -- Each node stands for a stretch of the program, so what is known of all instructions is known of
  -- the code in the node and in the nodes inside.
  induction h with
  | nil => exact Same.pure _
  | literal _ ih =>
    obtain ⟨-, rest⟩ := List.forall_mem_cons.mp each
    refine Same.nodes ?_ (ih rest)
    exact Same.bind (Same.literal alike _) fun _ => Same.pure _
  | output _ ih =>
    obtain ⟨code, rest⟩ := List.forall_mem_cons.mp each
    refine Same.nodes ?_ (ih rest)
    refine Same.bind (Same.evaluate e e' code) fun v => ?_
    exact Same.bind (Same.output alike _ v) fun _ => Same.pure _
  | simple _ ih =>
    obtain ⟨code, rest⟩ := List.forall_mem_cons.mp each
    refine Same.nodes ?_ (ih rest)
    exact Same.bind (Same.execute e e' code) fun _ => Same.pure _
  | breakLoop _ ih =>
    obtain ⟨-, rest⟩ := List.forall_mem_cons.mp each
    exact Same.nodes (Same.pure _) (ih rest)
  | continueLoop _ ih =>
    obtain ⟨-, rest⟩ := List.forall_mem_cons.mp each
    exact Same.nodes (Same.pure _) (ih rest)
  | choice body arms _ ihb iha ih =>
    obtain ⟨test, inner⟩ := List.forall_mem_cons.mp each
    obtain ⟨inBody, others⟩ := List.forall_mem_append.mp inner
    obtain ⟨inArms, rest⟩ := List.forall_mem_append.mp others
    refine Same.nodes ?_ (ih rest)
    refine Same.bind (Same.holds test) fun b => ?_
    cases b with
    | true => exact ihb inBody
    | false => exact iha inArms
  | forLoop body _ ihb ih =>
    obtain ⟨⟨plain, target, iter⟩, inner⟩ := List.forall_mem_cons.mp each
    obtain ⟨inBody, others⟩ := List.forall_mem_append.mp inner
    obtain ⟨-, rest⟩ := List.forall_mem_cons.mp others
    refine Same.nodes ?_ (ih rest)
    rw [runNode, runNode, plain, Bool.and_false, Bool.and_false]
    refine Same.bind (Same.overItems (Same.evaluate e e' iter) ?_ waits) fun _ => Same.pure _
    exact fun c hc => Same.forEach target (ihb inBody) rounds hc
  | whileLoop body _ ihb ih =>
    obtain ⟨test, inner⟩ := List.forall_mem_cons.mp each
    obtain ⟨inBody, others⟩ := List.forall_mem_append.mp inner
    obtain ⟨-, rest⟩ := List.forall_mem_cons.mp others
    refine Same.nodes ?_ (ih rest)
    rw [runNode, runNode]
    exact Same.bind (Same.whileTrue (Same.holds test) (ihb inBody) _ _ rounds) fun _ => Same.pure _
  | close => exact Same.pure _
  | elif _ _ ihb iha =>
    obtain ⟨test, inner⟩ := List.forall_mem_cons.mp each
    obtain ⟨inBody, inArms⟩ := List.forall_mem_append.mp inner
    refine Same.bind (Same.holds test) fun b => ?_
    cases b with
    | true => exact ihb inBody
    | false => exact iha inArms
  | otherwise body _ ihb =>
    obtain ⟨-, inner⟩ := List.forall_mem_cons.mp each
    exact ihb (List.forall_mem_append.mp inner).1

end

/-! ### The end of a body -/

namespace Render

/-- The body is run by its nodes and its end. -/
theorem run_body (e : Engine) (r : Render) (s : Store) :
    (r.body e).run s = (r.nodes e s.contexts.size { scope := r.scope } >>= fun left =>
      concludeBody (Rendering.stage r s.contexts.size s.context) r.template.compiled.isAsync left.1
        left.2).run (r.begun s) := by
  rfl

/-- How a body that may not wait and one that may are left: with the same result and in the same
state, or the first is tidied up. -/
inductive Leaves (r : Render) (e : Engine) (s : Store) :
    Except Fault Unit × RenderState → Except Fault Unit × RenderState → Prop
  | same {a} : Leaves r e s a a
  | tidied {result ρ fault s₁} (raises : r.Raises e s fault s₁) :
      Leaves r e s (result, ρ.tidy) (result, ρ)

/-- Run from the store `s`, the nodes of the body are left neither by a cancellation nor by the signal
for the end of a loop. -/
def Mild (r : Render) (e : Engine) (s : Store) : Prop :=
  ∀ fault s₁, r.Raises e s fault s₁ → fault.isOrdinary ∧ ¬fault.isA .stopIteration

section

variable {e e' : Engine} {r r' : Render} {s : Store}

theorem leavingBody_of_other {fault : Fault} (other : ¬fault.isA .stopIteration) (waits : Bool) :
    leavingBody waits fault = fault := by
  unfold leavingBody
  rw [if_neg]
  simp [other]

/-- A body ends alike whether it may wait or not, unless it is left by a cancellation or by the
signal for the end of a loop. -/
theorem alike_concludeBody (context : Nat) (before : Option Nat) (stream : r'.stream = r.stream)
    (waits : Bool) {left : Except Fault Flow}
    (mild : ∀ fault, left = .error fault → fault.isOrdinary ∧ ¬fault.isA .stopIteration)
    {ρ ρ' : RenderState} (tag : ρ.tag = ρ'.tag) :
    Process.Alike (fun a b => ∃ result, a = (result, ρ) ∧ b = (result, ρ'))
      (concludeBody (Rendering.stage r context before) false left ρ)
      (concludeBody (Rendering.stage r' context before) waits left ρ') := by
  have stage : Rendering.stage r' context before = Rendering.stage r context before := by
    unfold Rendering.stage
    rw [stream]
  rw [stage]
  cases left with
  | ok flow => exact .act _ fun _ => .act _ fun _ => .done ⟨_, rfl, rfl⟩
  | error fault =>
    obtain ⟨ordinary, other⟩ := mild fault rfl
    unfold concludeBody
    dsimp only
    rw [leavingBody_of_other other, leavingBody_of_other other]
    unfold endWithFault
    rw [if_pos ordinary, if_pos ordinary]
    have explains : Process.Alike (fun a b => ∃ explained, a = (explained, ρ) ∧ b = (explained, ρ'))
        ((Rendering.stage r context before).explain fault ρ)
        ((Rendering.stage r context before).explain fault ρ') := by
      have same : (Rendering.stage r context before).explain fault ρ' =
          .act (fun s => (((s.contexts[context]?).getD {}).explain s.heap s.palette ρ.tag fault, s))
            fun explained => .done (explained, ρ') := by
        rw [tag]
        rfl
      rw [same]
      exact .act _ fun _ => .done ⟨_, rfl, rfl⟩
    refine explains.bind ?_
    rintro _ _ ⟨explained, rfl, rfl⟩
    cases explained with
    | ok report => exact .act _ fun _ => .act _ fun _ => .done ⟨_, rfl, rfl⟩
    | error other => exact .act _ fun _ => .done ⟨_, rfl, rfl⟩

/-- Bodies whose nodes do the same, one of which may wait while the other may not, leave the store
the same, unless the nodes raise a cancellation or the signal for the end of a loop. -/
theorem body_leaves (alike : r.Matches r') (scope : r'.scope = r.scope)
    (context : r'.template.context = r.template.context)
    (plain : r.template.compiled.isAsync = false)
    (nodes : ∀ context, Same (r.nodes e context) (r'.nodes e' context))
    (mild : r.Mild e s) :
    (∃ a b s', r.Leaves e s a b ∧ (r.body e).run s = (.done a, s') ∧
      (r'.body e').run s = (.done b, s')) ∨
    ∃ s', (r.body e).run s = (.stuck, s') ∧ (r'.body e').run s = (.stuck, s') := by
  have begun : r'.begun s = r.begun s := by
    unfold Render.begun
    rw [context]
  rw [run_body, run_body, begun, scope, Process.run_bind, Process.run_bind]
  rcases (nodes s.contexts.size { scope := r.scope }).run (r.begun s) with
    ⟨⟨left, ρ⟩, ⟨left', ρ'⟩, s₁, ends, first, second⟩ | ⟨s₁, first, second⟩
  · have raises (fault : Fault) (failed : left = .error fault) : r.Raises e s fault s₁ := by
      subst failed
      refine ⟨fault, ρ, .of_run first, ?_⟩
      rw [plain]
      rfl
    obtain ⟨rfl, tag, leaves⟩ : left' = left ∧ ρ.tag = ρ'.tag ∧
        ∀ result, r.Leaves e s (result, ρ) (result, ρ') := by
      cases ends with
      | result same => exact ⟨congrArg _ same.symm, rfl, fun _ => .same⟩
      | fault => exact ⟨rfl, rfl, fun _ => .same⟩
      | @tidied f => exact ⟨rfl, rfl, fun _ => .tidied (raises f rfl)⟩
    rw [first, second, plain]
    rcases (alike_concludeBody s.contexts.size s.context alike.stream r'.template.compiled.isAsync
      (fun fault failed => mild fault s₁ (raises fault failed)) tag).run s₁ with
      ⟨_, _, s', ⟨result, rfl, rfl⟩, ending, ending'⟩ | ⟨s', ending, ending'⟩
    · exact .inl ⟨_, _, s', leaves result, ending, ending'⟩
    · exact .inr ⟨s', ending, ending'⟩
  · rw [first, second]
    exact .inr ⟨s₁, rfl, rfl⟩

end

end Render

/-! ### Modes -/

/-- The same template with its body run in another way. -/
def Template.inMode (t : Template) (enableAsync defer : Bool) : Template :=
  { t with
    compiled := { t.compiled with isAsync := enableAsync }
    options := { t.options with enableAsync, defer } }

/-- The same render with its body run in another way. -/
def Render.inMode (r : Render) (enableAsync defer : Bool) : Render :=
  { r with template := r.template.inMode enableAsync defer }

section

variable {source : String} {name filename : Option String} {options : RenderOptions}

/-- A template whose tags do not wait can be made in every mode. -/
theorem Template.make_inMode {t : Template} (made : make source name filename options = .ok t)
    (plain : options.enableAsync = false) (enableAsync defer : Bool) :
    make source name filename { options with enableAsync, defer } =
        .ok (t.inMode enableAsync defer) ∧
      t.compiled.isAsync = false ∧ nest t.compiled.program = .ok t.compiled.body ∧
      ∀ i ∈ t.compiled.program, i.Each Code.Waitless := by
  unfold make at made ⊢
  dsimp only at made ⊢
  rw [plain] at made
  cases compiles : compile Tag.language { name, filename, enableAsync := false } source with
  | error =>
    rw [compiles] at made
    cases made
  | ok compiled =>
    rw [compiles] at made
    cases made
    obtain ⟨waiting, isAsync, nests, each⟩ := compile_waiting Tag.language_lenient rfl compiles
    refine ⟨?_, isAsync, nests, each⟩
    cases enableAsync with
    | true =>
      have compiles' : compile Tag.language { name, filename, enableAsync := true } source = _ :=
        waiting
      rw [compiles']
      rfl
    | false =>
      rw [compiles]
      show _ = Except.ok (Template.inMode _ _ _)
      unfold inMode
      dsimp only
      rw [← isAsync]
      rfl

/-- A template that can be made for code that may not wait can be made in every mode. Its nodes then
do the same things in the same order. The bodies, begun in the same state, leave it the same: what
was appended, how the stream was closed, and what leaves the body. They leave the same names too,
except that after a fault no item is current, while one that was current from the beginning may
stay so in a body that may wait. -/
theorem Render.modes_alike {r : Render}
    (made : Template.make source name filename options = .ok r.template)
    (plain : options.enableAsync = false) (enableAsync defer : Bool) (e e' : Engine) :
    Template.make source name filename { options with enableAsync, defer } =
        .ok (r.inMode enableAsync defer).template ∧
      (∀ context, Same (r.nodes e context) ((r.inMode enableAsync defer).nodes e' context)) ∧
      ∀ s, r.Mild e s →
        (∃ a b s', r.Leaves e s a b ∧ (r.body e).run s = (.done a, s') ∧
          ((r.inMode enableAsync defer).body e').run s = (.done b, s')) ∨
        ∃ s', (r.body e).run s = (.stuck, s') ∧
          ((r.inMode enableAsync defer).body e').run s = (.stuck, s') := by
  obtain ⟨remade, isAsync, nests, each⟩ := Template.make_inMode made plain enableAsync defer
  have alike : r.Matches (r.inMode enableAsync defer) := ⟨rfl, rfl⟩
  have nodes (context : Nat) :
      Same (r.nodes e context) ((r.inMode enableAsync defer).nodes e' context) := by
    unfold nodes
    rw [isAsync]
    exact Same.perform alike (unfolds_nest nests) each
  exact ⟨remade, nodes, fun s mild => body_leaves alike rfl rfl isAsync nodes mild⟩

end

/-! ### Letters for items -/

/-- A template that writes a letter for each item of what it is given. -/
def Template.letters : String :=
  "<% for x in t: %>A<% end %>"

namespace Render

/-- Whether the nodes of the body, run from the store `s`, go to their end without a fault. -/
def succeeds (r : Render) (e : Engine) (s : Store) : Bool :=
  match (r.nodes e s.contexts.size { scope := r.scope }).run (r.begun s) with
  | (.done (.ok _, _), _) => true
  | _ => false

theorem mild_of_succeeds {r : Render} {e : Engine} {s : Store} (h : r.succeeds e s) :
    r.Mild e s := by
  rintro fault s₁ ⟨raised, ρ, runs, -⟩
  unfold succeeds at h
  split at h
  · next run => exact nomatch (runs.unique run).1
  · cases h

/-- The stream of a render that was started from the store `s` in a loop, when the loop has taken its
next three turns. -/
def settled (r : Render) (s : Store) : Option ChunkStream :=
  (EventLoop.settle 3 { store := ((r.start mainEngine true).upTo s).2 }).store.streams[r.stream]?

/-- A store with one stream and a task that has yet to run and does nothing. -/
def withTask : Store :=
  let spawn : StateM Store Nat := do Store.newTask (← Store.newCoroutine (.script [])) none
  (spawn.run oneStream).2

/-- A render that goes through two items. -/
def overTwo (template : Template) : Render :=
  withData template [("t", .tuple (.constant 1 1) [.int 1, .int 2])]

/-- Two letters are written for two items, at once as well as by a deferred task. -/
theorem letters_alike : ∃ t a b s' st, Template.make Template.letters none none {} = .ok t ∧
    (overTwo t).Leaves mainEngine oneStream a b ∧
    ((overTwo t).body mainEngine).run oneStream = (.done a, s') ∧
    (((overTwo t).inMode true true).body mainEngine).run oneStream = (.done b, s') ∧
    s'.streams[0]? = some st ∧ st.pending = 2 ∧ st.reported = none := by
  obtain ⟨t, made, succeeds, outcome⟩ : ∃ t, Template.make Template.letters none none {} = .ok t ∧
      (overTwo t).succeeds mainEngine oneStream ∧
      (overTwo t).outcome mainEngine oneStream = some { sources := 2 } :=
    Template.exists_made (by decide +kernel)
  obtain ⟨_, _, _, st, run, there, same⟩ := run_of_outcome outcome
  obtain ⟨-, -, leaves⟩ := modes_alike (r := overTwo t) made rfl true true mainEngine mainEngine
  rcases leaves oneStream (mild_of_succeeds succeeds) with
    ⟨a, b, s', left, first, second⟩ | ⟨s', stuck, -⟩
  · obtain ⟨-, rfl⟩ := Prod.mk.inj (run.symm.trans first)
    exact ⟨t, a, b, _, st, made, left, first, second, there,
      congrArg Outcome.sources same.symm, congrArg Outcome.reported same.symm⟩
  · exact nomatch run.symm.trans stuck

/-- The modes are told apart by a task that is done before the loop comes to the body, and by an
item that was current from the beginning: a body that may not wait forgets it when what a loop is to
go through cannot be evaluated. -/
theorem modes_differ : ∃ t, Template.make Template.letters none none {} = .ok t ∧
    (((withData t [("t", .process .task 0)]).settled withTask).map
        (fun st => (st.pending, st.reported)) = some (1, some .runtime) ∧
      (((withData t [("t", .process .task 0)]).inMode false true).settled withTask).map
        (fun st => (st.pending, st.reported)) = some (0, none)) ∧
    (withData t [(loopItem, .int 1)]).outcome mainEngine oneStream =
      some { sources := 0, reported := some .name } ∧
    ((withData t [(loopItem, .int 1)]).inMode true false).outcome mainEngine oneStream =
      some { sources := 0, reported := some .name, current := true } :=
  Template.exists_made (by decide +kernel)

end Render

end StreamTemplate
