import StreamTemplate.Proofs.Loop.Amid
import StreamTemplate.Proofs.Render.Contained

/-!
# What the nodes of a body do, in order

The nodes of a body are run once more by a machine that takes down what it does: which instruction was
entered last, whose code is at work, and whether that failed. The code in the body is labelled for
this with the instruction it belongs to. A run of the nodes is a run of the labelled nodes that leaves
a trace; what fails comes last in it, and the instruction entered last is the one whose code is at
work, except where a loop goes on behind its first round.
-/

namespace StreamTemplate

open Program

universe u

/-! ### Runs among others -/

namespace Process

variable {σ α β : Type} {J : σ → σ → Prop} {s s₁ s' : σ}

theorem RunsAmid.runs {p : Process σ α} {a : α} (h : p.RunsAmid J s a s') : p.Runs s a s' := by
  induction h with
  | done => exact .done
  | act _ ih => exact .act ih
  | wait _ _ ih => exact .wait ih

/-- Among others that may do anything, a process has all its runs. -/
theorem runsAmid_true {p : Process σ α} {a : α} :
    p.RunsAmid (fun _ _ => True) s a s' ↔ p.Runs s a s' := by
  refine ⟨RunsAmid.runs, fun h => ?_⟩
  induction h with
  | done => exact .done
  | act _ ih => exact .act ih
  | wait _ ih => exact .wait trivial ih

end Process

/-! ### Labels -/

namespace Program

/-- What reports know an instruction by: its place and its tag. -/
structure Spot where
  site : Site
  tag : Option String
  deriving DecidableEq, Repr

/-- What a piece of code is there for. -/
inductive Role where
  /-- It is the code in the tag of its instruction. -/
  | own
  /-- It is the condition in the tag of a later clause of its instruction. -/
  | clause (tag : String)
  /-- It is the target of a loop, which is given an item in each round. -/
  | item (round : Nat)
  deriving DecidableEq, Repr

/-- Code with the instruction it belongs to and what it is there for. -/
structure Owned (κ : Type) where
  code : κ
  owner : Spot
  role : Role

section

variable {κ : Type}

/-- What reports know a node by. -/
def Node.spot (node : Node κ) : Spot :=
  ⟨node.site, node.tag?⟩

mutual

/-- A node whose code is labelled. -/
def Node.owned : Node κ → Node (Owned κ)
  | .literal site text => .literal site text
  | .output site escaped source code tag =>
    .output site escaped source ⟨code, ⟨site, some tag⟩, .own⟩ tag
  | .simple site source code tag => .simple site source ⟨code, ⟨site, some tag⟩, .own⟩ tag
  | .control site isBreak tag => .control site isBreak tag
  | .choice site branches tag =>
    .choice site (ownedBranches ⟨site, some tag⟩ (fun _ => .own) branches) tag
  | .forLoop site isAsync target iter body tag =>
    .forLoop site isAsync ⟨target, ⟨site, some tag⟩, .item 0⟩ ⟨iter, ⟨site, some tag⟩, .own⟩
      (ownedNodes body) tag
  | .whileLoop site test body tag =>
    .whileLoop site ⟨test, ⟨site, some tag⟩, .own⟩ (ownedNodes body) tag

/-- Nodes whose code is labelled. -/
def ownedNodes : List (Node κ) → List (Node (Owned κ))
  | [] => []
  | node :: rest => node.owned :: ownedNodes rest

/-- The clauses of an instruction with their code labelled. The condition of the first one is in the
tag of the instruction, that of a later one is in its own. -/
def ownedBranches (owner : Spot) (role : String → Role) :
    List (Branch κ) → List (Branch (Owned κ))
  | [] => []
  | .mk test body tag :: rest =>
    .mk (test.map (⟨·, owner, role tag⟩)) (ownedNodes body) tag ::
      ownedBranches owner .clause rest

end

@[simp]
theorem Node.site_owned (node : Node κ) : node.owned.site = node.site := by
  cases node <;> rfl

@[simp]
theorem Node.tag?_owned (node : Node κ) : node.owned.tag? = node.tag? := by
  cases node <;> rfl

end

end Program

/-! ### Traces -/

/-- What is known at a moment: the instruction that was entered last, and whose code is at work and
what for. -/
structure Mark where
  entered : Spot
  owner : Spot
  role : Role
  deriving DecidableEq, Repr

/-- The instruction that was entered last is the one whose code is at work, unless that is to give a
loop an item behind the first one. -/
def Mark.Faithful (m : Mark) : Prop :=
  m.entered = m.owner ∨ ∃ round, m.role = .item (round + 1)

/-- Code of an instruction is at work now. -/
def Mark.turn (owner : Spot) (role : Role) (m : Mark) : Mark :=
  { m with owner, role }

/-- What was done, in order, with the marks of the moments, and whether it failed. -/
structure Trace where
  now : Mark := ⟨⟨⟨0, 0⟩, none⟩, ⟨⟨0, 0⟩, none⟩, .own⟩
  events : List (Mark × Bool) := []

/-- Takes down that something was done. -/
def Trace.note (t : Trace) (now : Mark) (failed : Bool) : Trace :=
  { now, events := t.events ++ [(now, failed)] }

section

variable {κ γ : Type} {m : Type → Type u} [Monad m]

/-- Does something and takes it down. -/
def noted {α : Type} (x : ExceptT Fault m α) (mark : Mark → Mark) :
    ExceptT Fault (StateT Trace m) α :=
  ExceptT.mk fun t => do
    let r ← x.run
    return (r, t.note (mark t.now) (!r.toBool))

/-- A machine for labelled code that does the same and takes down what it does. A cursor comes with the
loop that it is gone through by and the round that it has come to. -/
def Machine.traced (h : Machine κ γ m) : Machine (Owned κ) (γ × Spot × Nat) (StateT Trace m) where
  enter site tag := do
    modify fun t => t.note ⟨⟨site, tag⟩, ⟨site, tag⟩, .own⟩ false
    StateT.lift (h.enter site tag)
  evaluate c := noted (h.evaluate c.code) (·.turn c.owner c.role)
  execute c := noted (h.execute c.code) (·.turn c.owner c.role)
  assign c := noted (h.assign c.code) id
  truth v := StateT.lift (h.truth v)
  cursor isAsync v := do
    let c ← noted (h.cursor isAsync v) id
    return (c, (← get).now.owner, 0)
  advance c := do
    let next ← noted (h.advance c.1) (·.turn c.2.1 (.item c.2.2))
    return next.map fun (v, rest) => (v, rest, c.2.1, c.2.2 + 1)
  setItem v := StateT.lift (h.setItem v)
  dropItem := StateT.lift h.dropItem
  literal text := noted (h.literal text) id
  output escaped v := noted (h.output escaped v) id
  stuck := StateT.lift h.stuck

end

/-- How a trace goes on while something is done with one outcome or, labelled, the other. Whatever
fails is the last that is done. -/
inductive Trace.Continues {α β : Type} (Q : α → β → Mark → Prop) (t t' : Trace) :
    Except Fault α → Except Fault β → Prop
  | fine {a b new} (events : t'.events = t.events ++ new)
      (each : ∀ e ∈ new, e.1.Faithful ∧ e.2 = false) (now : t'.now.Faithful) (ends : Q a b t'.now) :
      Continues Q t t' (.ok a) (.ok b)
  | broken {fault new} (events : t'.events = t.events ++ new ++ [(t'.now, true)])
      (each : ∀ e ∈ new, e.1.Faithful ∧ e.2 = false) (now : t'.now.Faithful) :
      Continues Q t t' (.error fault) (.error fault)

section

variable {κ γ S σ α β α' β' : Type} {J : σ → σ → Prop} {I : Spot → S → σ → Prop}

/-- Something keeps a property of the states, whatever others do that they may. -/
def Keeps (J : σ → σ → Prop) (I : S → σ → Prop) (x : StateT S (Process σ) α) : Prop :=
  ∀ ρ s a ρ' s', I ρ s → (x ρ).RunsAmid J s (a, ρ') s' → I ρ' s'

/-- What the states show of the instruction that was entered last: entering another one brings that to
show, and nothing else that the machine does changes it. -/
structure Machine.Shows (h : Machine κ γ (StateT S (Process σ))) (J : σ → σ → Prop)
    (I : Spot → S → σ → Prop) : Prop where
  enter : ∀ site tag spot ρ s ρ' s', I spot ρ s → (h.enter site tag ρ).RunsAmid J s ((), ρ') s' →
    I ⟨site, tag⟩ ρ' s'
  evaluate : ∀ c spot, Keeps J (I spot) (h.evaluate c).run
  execute : ∀ c spot, Keeps J (I spot) (h.execute c).run
  assign : ∀ c spot, Keeps J (I spot) (h.assign c).run
  truth : ∀ v spot, Keeps J (I spot) (h.truth v)
  cursor : ∀ isAsync v spot, Keeps J (I spot) (h.cursor isAsync v).run
  advance : ∀ c spot, Keeps J (I spot) (h.advance c).run
  setItem : ∀ v spot, Keeps J (I spot) (h.setItem v)
  dropItem : ∀ spot, Keeps J (I spot) h.dropItem
  literal : ∀ text spot, Keeps J (I spot) (h.literal text).run
  output : ∀ escaped v spot, Keeps J (I spot) (h.output escaped v).run
  stuck : ∀ {α : Type} spot, Keeps J (I spot) (h.stuck : StateT S (Process σ) α)

/-- Whatever a machine does, nothing need be shown. -/
theorem Machine.shows_true (h : Machine κ γ (StateT S (Process σ))) :
    h.Shows (fun _ _ => True) fun _ _ _ => True := by
  constructor
  case enter => intros; trivial
  all_goals
    intros
    exact fun _ _ _ _ _ _ _ => trivial

/-- Every run of `x` is one of `x'`, which takes down what is done, from moments with the property `P`
on; if nothing fails, the results and the moment afterwards are as `Q` says. All the time the
states show the instruction that was entered last. -/
def Traces (J : σ → σ → Prop) (I : Spot → S → σ → Prop) (P : Mark → Prop)
    (Q : α → β → Mark → Prop) (x : ExceptT Fault (StateT S (Process σ)) α)
    (x' : ExceptT Fault (StateT Trace (StateT S (Process σ))) β) : Prop :=
  ∀ t ρ s r ρ' s', P t.now → t.now.Faithful → I t.now.entered ρ s →
    (x ρ).RunsAmid J s (r, ρ') s' → ∃ r' t', (x' t ρ).RunsAmid J s ((r', t'), ρ') s' ∧
      I t'.now.entered ρ' s' ∧ t.Continues Q t' r r'

variable {P P' : Mark → Prop} {Q : α → β → Mark → Prop} {Q' : α' → β' → Mark → Prop}
  {x : ExceptT Fault (StateT S (Process σ)) α}
  {x' : ExceptT Fault (StateT Trace (StateT S (Process σ))) β}

theorem runsAmid_lift {x : StateT S (Process σ) α} {t : Trace} {ρ ρ' : S} {s s' : σ} {a : α}
    (run : (x ρ).RunsAmid J s (a, ρ') s') :
    (StateT.lift x t ρ : Process σ ((α × Trace) × S)).RunsAmid J s ((a, t), ρ') s' :=
  run.bind .done

namespace Traces

theorem pure {a : α} {b : β} (ends : ∀ m, P m → Q a b m) :
    Traces J I P Q (Pure.pure a) (Pure.pure b) := by
  intro t ρ s r ρ' s' pre faithful shows run
  cases run
  exact ⟨_, t, .done, shows, .fine (List.append_nil _).symm nofun faithful (ends _ pre)⟩

theorem bind {f : α → ExceptT Fault (StateT S (Process σ)) α'}
    {f' : β → ExceptT Fault (StateT Trace (StateT S (Process σ))) β'} (hx : Traces J I P Q x x')
    (hf : ∀ a b, Traces J I (Q a b) Q' (f a) (f' b)) : Traces J I P Q' (x >>= f) (x' >>= f') := by
  intro t ρ s r ρ' s' pre faithful shows run
  obtain ⟨⟨r₁, ρ₁⟩, s₁, first, second⟩ := run.of_bind
  obtain ⟨r₁', t₁, first', shows₁, continues⟩ := hx t ρ s r₁ ρ₁ s₁ pre faithful shows first
  cases continues with
  | @fine a b new events each now ends =>
    obtain ⟨r', t', second', shows', continues'⟩ := hf a b t₁ ρ₁ s₁ r ρ' s' ends now shows₁ second
    refine ⟨r', t', first'.bind second', shows', ?_⟩
    have both {new' : List (Mark × Bool)} (each' : ∀ e ∈ new', e.1.Faithful ∧ e.2 = false) :
        ∀ e ∈ new ++ new', e.1.Faithful ∧ e.2 = false :=
      List.forall_mem_append.mpr ⟨each, each'⟩
    cases continues' with
    | fine events' each' now' ends' =>
      refine .fine ?_ (both each') now' ends'
      rw [events', events, List.append_assoc]
    | broken events' each' now' =>
      refine .broken ?_ (both each') now'
      rw [events', events, List.append_assoc t.events]
  | @broken fault new events each now =>
    cases second
    exact ⟨.error fault, t₁, first'.bind .done, shows₁, .broken events each now⟩

/-- What follows goes on from one result and from what corresponds to it. -/
theorem bind_to {R : α → Mark → Prop} {g : α → β} {f : α → ExceptT Fault (StateT S (Process σ)) α'}
    {f' : β → ExceptT Fault (StateT Trace (StateT S (Process σ))) β'}
    (hx : Traces J I P (fun a b m => b = g a ∧ R a m) x x')
    (hf : ∀ a, Traces J I (R a) Q' (f a) (f' (g a))) : Traces J I P Q' (x >>= f) (x' >>= f') := by
  refine hx.bind fun a b t ρ s r ρ' s' pre => ?_
  obtain ⟨rfl, pre⟩ := pre
  exact hf a t ρ s r ρ' s' pre

theorem mono {R : α → β → Mark → Prop} (hx : Traces J I P Q x x') (pre : ∀ m, P' m → P m)
    (post : ∀ a b m, Q a b m → R a b m) : Traces J I P' R x x' := by
  intro t ρ s r ρ' s' hp faithful shows run
  obtain ⟨r', t', run', shows', continues⟩ := hx t ρ s r ρ' s' (pre _ hp) faithful shows run
  refine ⟨r', t', run', shows', ?_⟩
  cases continues with
  | fine events each now ends => exact .fine events each now (post _ _ _ ends)
  | broken events each now => exact .broken events each now

/-- Something that is taken down. -/
theorem noted {Q : α → α → Mark → Prop} (mark : Mark → Mark) (keeps : ∀ spot, Keeps J (I spot) x.run)
    (entered : ∀ m, (mark m).entered = m.entered)
    (faithful : ∀ m, P m → m.Faithful → (mark m).Faithful) (ends : ∀ a m, P m → Q a a (mark m)) :
    Traces J I P Q x (noted x mark) := by
  intro t ρ s r ρ' s' pre faithful' shows run
  refine ⟨r, t.note (mark t.now) (!r.toBool), run.bind .done, ?_, ?_⟩
  · rw [show (t.note (mark t.now) (!r.toBool)).now = mark t.now from rfl, entered]
    exact keeps _ ρ s r ρ' s' shows run
  · have now := faithful _ pre faithful'
    cases r with
    | ok a =>
      refine .fine rfl ?_ now (ends a _ pre)
      rintro _ (_ | ⟨_, ⟨⟩⟩)
      exact ⟨now, rfl⟩
    | error fault =>
      refine .broken ?_ (List.forall_mem_nil _) now
      rw [List.append_nil]
      rfl

/-- Something that cannot fail and is not taken down. -/
theorem lift {Q : α → α → Mark → Prop} {x : StateT S (Process σ) α}
    (keeps : ∀ spot, Keeps J (I spot) x) (ends : ∀ a m, P m → Q a a m) :
    Traces J I P Q (ExceptT.lift x) (ExceptT.lift (StateT.lift x)) := by
  intro t ρ s r ρ' s' pre faithful shows run
  obtain ⟨⟨a, ρ₁⟩, s₁, first, second⟩ := run.of_bind
  cases second
  exact ⟨.ok a, t, (runsAmid_lift first).bind .done, keeps _ ρ s a ρ' s' shows first,
    .fine (List.append_nil _).symm nofun faithful (ends a _ pre)⟩

/-- Something is done last. -/
theorem ensuring {last : StateT S (Process σ) Unit} (hx : Traces J I P Q x x')
    (keeps : ∀ spot, Keeps J (I spot) last) :
    Traces J I P Q (ensuring x last) (ensuring x' (StateT.lift last)) := by
  intro t ρ s r ρ' s' pre faithful shows run
  obtain ⟨⟨r₁, ρ₁⟩, s₁, first, rest⟩ := run.of_bind
  obtain ⟨⟨_, ρ₂⟩, s₂, second, rest⟩ := rest.of_bind
  cases rest
  obtain ⟨r', t', first', shows₁, continues⟩ := hx t ρ s r ρ₁ s₁ pre faithful shows first
  refine ⟨r', t', first'.bind ((runsAmid_lift second).bind .done), ?_, continues⟩
  exact keeps _ ρ₁ s₁ () ρ' s' shows₁ second

end Traces

/-! ### Nodes -/

section

variable {h : Machine κ γ (StateT S (Process σ))} {spot : Spot}

namespace Traces

/-- Code of the instruction that was entered last. -/
theorem evaluate (shows : h.Shows J I) (code : κ) (role : Role) :
    Traces J I (·.entered = spot) (fun a b m => b = a ∧ m.entered = spot ∧ m.owner = spot)
      (h.evaluate code) (h.traced.evaluate ⟨code, spot, role⟩) :=
  noted (·.turn spot role) (shows.evaluate code) (fun _ => rfl) (fun _ here _ => .inl here)
    fun _ _ here => ⟨rfl, here, rfl⟩

theorem execute (shows : h.Shows J I) (code : κ) (role : Role) :
    Traces J I (·.entered = spot) (fun _ _ _ => True) (h.execute code)
      (h.traced.execute ⟨code, spot, role⟩) :=
  noted (·.turn spot role) (shows.execute code) (fun _ => rfl) (fun _ here _ => .inl here)
    fun _ _ _ => trivial

/-- Something that belongs to the same code as what was done before. -/
theorem afterwards (keeps : ∀ spot, Keeps J (I spot) x.run) :
    Traces J I P (fun _ _ _ => True) x (StreamTemplate.noted x id) :=
  noted id keeps (fun _ => rfl) (fun _ _ now => now) fun _ _ _ => trivial

/-- A condition of the instruction that was entered last. -/
theorem holds (shows : h.Shows J I) (test : κ) (role : Role) :
    Traces J I (·.entered = spot) (fun a b m => b = a ∧ m.entered = spot)
      (StreamTemplate.holds h test) (StreamTemplate.holds h.traced ⟨test, spot, role⟩) :=
  (evaluate shows test role).bind_to fun v => lift (shows.truth v) fun _ _ pre => ⟨rfl, pre.1⟩

/-- Entering an instruction. -/
theorem enter (shows : h.Shows J I) (site : Site) (tag : Option String) :
    Traces J I (fun _ => True) (fun _ _ m => m.entered = ⟨site, tag⟩)
      (ExceptT.lift (h.enter site tag)) (ExceptT.lift (h.traced.enter site tag)) := by
  intro t ρ s r ρ' s' _ _ known run
  obtain ⟨⟨⟨⟩, ρ₁⟩, s₁, first, second⟩ := run.of_bind
  cases second
  refine ⟨.ok (), _, (runsAmid_lift first).bind .done,
    shows.enter site tag _ ρ s ρ' s' known first, .fine rfl ?_ (.inl rfl) rfl⟩
  rintro _ (_ | ⟨_, ⟨⟩⟩)
  exact ⟨.inl rfl, rfl⟩

/-- The beginning of a loop over a value. -/
theorem cursor (shows : h.Shows J I) (isAsync : Bool) (v : Value) :
    Traces J I (fun m => m.entered = spot ∧ m.owner = spot)
      (fun a b m => b = (a, spot, 0) ∧ m.entered = spot) (h.cursor isAsync v)
      (h.traced.cursor isAsync v) := by
  have begins : Traces J I (fun m => m.entered = spot ∧ m.owner = spot)
      (fun a b m => b = a ∧ m.entered = spot ∧ m.owner = spot) (h.cursor isAsync v)
      (StreamTemplate.noted (h.cursor isAsync v) id) :=
    noted id (shows.cursor isAsync v) (fun _ => rfl) (fun _ _ now => now) fun _ _ pre => ⟨rfl, pre⟩
  rw [← bind_pure (h.cursor isAsync v)]
  refine begins.bind_to fun c t ρ s r ρ' s' pre faithful known run => ?_
  cases run
  refine ⟨.ok (c, t.now.owner, 0), t, .done, known, .fine (List.append_nil _).symm nofun faithful ?_⟩
  exact ⟨by rw [pre.2], pre.1⟩

/-- The next item of a loop. Before the first one the instruction entered last is the loop itself. -/
theorem advance (shows : h.Shows J I) (c : γ) (round : Nat) :
    Traces J I (fun m => round = 0 → m.entered = spot)
      (fun a b _ => b = a.map (fun (v, rest) => (v, rest, spot, round + 1)) ∧ True) (h.advance c)
      (h.traced.advance (c, spot, round)) := by
  have here (m : Mark) (first : round = 0 → m.entered = spot) :
      (m.turn spot (.item round)).Faithful := by
    cases round with
    | zero => exact .inl (first rfl)
    | succ round => exact .inr ⟨round, rfl⟩
  have next : Traces J I (fun m => round = 0 → m.entered = spot) (fun a b _ => b = a ∧ True)
      (h.advance c) (StreamTemplate.noted (h.advance c) (·.turn spot (.item round))) :=
    noted _ (shows.advance c) (fun _ => rfl) (fun m first _ => here m first)
      fun _ _ _ => ⟨rfl, trivial⟩
  rw [← bind_pure (h.advance c)]
  exact next.bind_to fun a => pure fun _ _ => ⟨rfl, trivial⟩

/-- A loop over items, from a round on. -/
theorem forEach (shows : h.Shows J I) (target : κ) (role : Role)
    {body : ExceptT Fault (StateT S (Process σ)) Flow}
    {body' : ExceptT Fault (StateT Trace (StateT S (Process σ))) Flow}
    (hb : Traces J I (fun _ => True) (fun a b _ => b = a ∧ True) body body') (rounds : Nat) (c : γ)
    (round : Nat) :
    Traces J I (fun m => round = 0 → m.entered = spot) (fun _ _ _ => True)
      (StreamTemplate.forEach h target body rounds c)
      (StreamTemplate.forEach h.traced ⟨target, spot, role⟩ body' rounds (c, spot, round)) := by
  induction rounds generalizing c round with
  | zero => exact lift shows.stuck fun _ _ _ => trivial
  | succ rounds ih =>
    refine (advance shows c round).bind_to fun next => ?_
    cases next with
    | none => exact pure fun _ _ => trivial
    | some item =>
      have current : Traces J I (fun _ => True) (fun _ _ _ => True)
          (ExceptT.lift (h.setItem item.1)) (ExceptT.lift (h.traced.setItem item.1)) :=
        lift (shows.setItem item.1) fun _ _ _ => trivial
      refine current.bind fun _ _ => (afterwards (shows.assign target)).bind fun _ _ =>
        hb.bind_to fun flow => ?_
      cases flow with
      | breakLoop => exact pure fun _ _ => trivial
      | next | continueLoop => exact (ih item.2 (round + 1)).mono (fun _ _ => nofun) fun _ _ _ => id

/-- A loop with a condition. Each time the condition is evaluated the instruction entered last is the
loop itself. -/
theorem whileTrue (shows : h.Shows J I) {site : Site} {tag : Option String}
    {test : ExceptT Fault (StateT S (Process σ)) Bool}
    {test' : ExceptT Fault (StateT Trace (StateT S (Process σ))) Bool}
    (ht : Traces J I (·.entered = ⟨site, tag⟩) (fun a b _ => b = a ∧ True) test test')
    {body : ExceptT Fault (StateT S (Process σ)) Flow}
    {body' : ExceptT Fault (StateT Trace (StateT S (Process σ))) Flow}
    (hb : Traces J I (fun _ => True) (fun a b _ => b = a ∧ True) body body') (rounds : Nat) :
    Traces J I (·.entered = ⟨site, tag⟩) (fun _ _ _ => True)
      (StreamTemplate.whileTrue h test body (h.enter site tag) rounds)
      (StreamTemplate.whileTrue h.traced test' body' (h.traced.enter site tag) rounds) := by
  induction rounds with
  | zero => exact lift shows.stuck fun _ _ _ => trivial
  | succ rounds ih =>
    refine ht.bind_to fun more => ?_
    cases more with
    | false => exact pure fun _ _ => trivial
    | true =>
      refine hb.bind_to fun flow => ?_
      cases flow with
      | breakLoop => exact pure fun _ _ => trivial
      | next | continueLoop => exact (enter shows site tag).bind fun _ _ => ih

/-- A loop over a value. -/
theorem overItems (shows : h.Shows J I) (iter : κ) (role : Role)
    {loop : γ → ExceptT Fault (StateT S (Process σ)) Unit}
    {loop' : γ × Spot × Nat → ExceptT Fault (StateT Trace (StateT S (Process σ))) Unit}
    (hl : ∀ c, Traces J I (·.entered = spot) (fun _ _ _ => True) (loop c) (loop' (c, spot, 0)))
    (waits isAsync : Bool) :
    Traces J I (·.entered = spot) (fun _ _ _ => True)
      (StreamTemplate.overItems h waits isAsync (h.evaluate iter) loop)
      (StreamTemplate.overItems h.traced waits isAsync (h.traced.evaluate ⟨iter, spot, role⟩)
        loop') := by
  have goes (v : Value) : Traces J I (fun m => m.entered = spot ∧ m.owner = spot) (fun _ _ _ => True)
      (do loop (← h.cursor isAsync v)) (do loop' (← h.traced.cursor isAsync v)) :=
    (cursor shows isAsync v).bind_to hl
  cases waits with
  | false => exact ((evaluate shows iter role).bind_to goes).ensuring shows.dropItem
  | true => exact (evaluate shows iter role).bind_to fun v => (goes v).ensuring shows.dropItem

variable (shows : h.Shows J I) (waits : Bool) (rounds : Nat)

include shows

mutual

/-- Nodes one after the other. -/
theorem nodes : (list : List (Node κ)) → Traces J I (fun _ => True) (fun a b _ => b = a ∧ True)
    (runNodes h waits rounds list) (runNodes h.traced waits rounds (ownedNodes list))
  | [] => by
    simp only [ownedNodes, runNodes]
    exact pure fun _ _ => ⟨rfl, trivial⟩
  | n :: rest => by
    simp only [ownedNodes, runNodes, Node.site_owned, Node.tag?_owned]
    refine (enter shows n.site n.tag?).bind fun _ _ => (node n).bind_to fun flow => ?_
    cases flow with
    | next => exact nodes rest
    | breakLoop | continueLoop => exact pure fun _ _ => ⟨rfl, trivial⟩

/-- A node that has just been entered. -/
theorem node : (node : Node κ) → Traces J I (·.entered = node.spot) (fun a b _ => b = a ∧ True)
    (runNode h waits rounds node) (runNode h.traced waits rounds node.owned)
  | .literal _ text => by
    simp only [Node.owned, runNode]
    exact (afterwards (shows.literal text)).bind fun _ _ => pure fun _ _ => ⟨rfl, trivial⟩
  | .output site escaped _ code tag => by
    simp only [Node.owned, runNode]
    refine (evaluate shows code .own).bind_to fun v => ?_
    exact (afterwards (shows.output escaped v)).bind fun _ _ => pure fun _ _ => ⟨rfl, trivial⟩
  | .simple site _ code tag => by
    simp only [Node.owned, runNode]
    exact (execute shows code .own).bind fun _ _ => pure fun _ _ => ⟨rfl, trivial⟩
  | .control _ isBreak _ => by
    simp only [Node.owned, runNode]
    exact pure fun _ _ => ⟨rfl, trivial⟩
  | .choice site list tag => by
    simp only [Node.owned, runNode]
    exact branches _ _ list
  | .forLoop site isAsync target iter body tag => by
    simp only [Node.owned, runNode]
    refine (overItems shows iter .own (fun c => ?_) waits (waits && isAsync)).bind fun _ _ =>
      pure fun _ _ => ⟨rfl, trivial⟩
    exact (forEach shows target _ (nodes body) rounds c 0).mono (fun _ here _ => here) fun _ _ _ => id
  | .whileLoop site test body tag => by
    simp only [Node.owned, runNode]
    have again : Traces J I (·.entered = ⟨site, some tag⟩) (fun a b _ => b = a ∧ True)
        (StreamTemplate.holds h test) (StreamTemplate.holds h.traced ⟨test, ⟨site, some tag⟩, .own⟩) :=
      (holds shows test .own).mono (fun _ => id) fun _ _ _ post => ⟨post.1, trivial⟩
    exact (whileTrue shows again (nodes body) rounds).bind fun _ _ => pure fun _ _ => ⟨rfl, trivial⟩

/-- The clauses of an instruction, as long as none of their bodies has run. -/
theorem branches (owner : Spot) (role : String → Role) : (list : List (Branch κ)) →
    Traces J I (·.entered = owner) (fun a b _ => b = a ∧ True) (runBranches h waits rounds list)
      (runBranches h.traced waits rounds (ownedBranches owner role list))
  | [] => by
    simp only [ownedBranches, runBranches]
    exact pure fun _ _ => ⟨rfl, trivial⟩
  | .mk none body _ :: _ => by
    simp only [ownedBranches, runBranches, Option.map_none]
    exact (nodes body).mono (fun _ _ => trivial) fun _ _ _ => id
  | .mk (some test) body _ :: rest => by
    simp only [ownedBranches, runBranches, Option.map_some]
    refine (holds shows test _).bind_to fun taken => ?_
    cases taken with
    | true => exact (nodes body).mono (fun _ _ => trivial) fun _ _ _ => id
    | false => exact branches owner .clause rest

end

end Traces

end

end

end StreamTemplate
