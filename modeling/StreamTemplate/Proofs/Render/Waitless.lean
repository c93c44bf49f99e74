import StreamTemplate.Proofs.Loop.Process
import StreamTemplate.Proofs.Tag.Lenient
import StreamTemplate.Render.Start

/-! # Code that does not wait

Two pieces of code in tags, or two ways to run the nodes of a body, are compared: they do the same
things in the same order, never wait, and have the same outcome. After a fault the first may have
tidied up: it leaves no item current.

Code that passes the check for code that may not wait never waits, and it does not matter what
would run the coroutines that it does not await. -/

namespace StreamTemplate

/-! ### Code that does the same -/

/-- A state in which no item of a loop is current. -/
def RenderState.tidy (s : RenderState) : RenderState :=
  { s with scope := s.scope.erase loopItem }

@[simp]
theorem RenderState.tidy_tidy (s : RenderState) : s.tidy.tidy = s.tidy := by
  simp [tidy, Scope.erase]

/-- The outcomes of code, each with the state that it leaves: the results are related and the states
are the same, or the fault is the same and the first state may be tidied up. -/
inductive Ends {α : Type} (R : α → α → Prop) :
    Except Fault α × RenderState → Except Fault α × RenderState → Prop
  | result {a b s} : R a b → Ends R (.ok a, s) (.ok b, s)
  | fault {f s} : Ends R (.error f, s) (.error f, s)
  | tidied {f s} : Ends R (.error f, s.tidy) (.error f, s)

/-- Two pieces of code do the same, whatever the state. -/
def Alike {α : Type} (R : α → α → Prop) (x y : Eval α) : Prop :=
  ∀ s, Process.Alike (Ends R) (x s) (y s)

/-- Two pieces of code do the same and have the same result. -/
abbrev Same {α : Type} (x y : Eval α) : Prop := Alike Eq x y

section

variable {α β : Type} {R : α → α → Prop} {S : β → β → Prop} {x y : Eval α}

theorem Alike.pure {a b : α} (h : R a b) : Alike R (Pure.pure a) (Pure.pure b) :=
  fun _ => .done (.result h)

theorem Alike.bind {f g : α → Eval β} (h : Alike R x y) (hfg : ∀ a b, R a b → Alike S (f a) (g b)) :
    Alike S (x >>= f) (y >>= g) := by
  intro s
  refine (h s).bind ?_
  intro a b r
  cases r with
  | result r => exact hfg _ _ r _
  | fault => exact .done .fault
  | tidied => exact .done .tidied

theorem Same.pure (a : α) : Same (Pure.pure a) (Pure.pure a) := Alike.pure rfl

theorem Same.bind {f g : α → Eval β} (h : Same x y) (hfg : ∀ a, Alike S (f a) (g a)) :
    Alike S (x >>= f) (y >>= g) :=
  Alike.bind h fun a _ r => r ▸ hfg a

theorem Same.throw (f : Fault) : Alike R (throw f) (throw f) :=
  fun _ => .done .fault

theorem Same.act (a : Act α) : Same (Eval.act a) (Eval.act a) := by
  intro s
  refine .act _ fun r => ?_
  cases r with
  | ok v => exact .done (.result rfl)
  | error f => exact .done .fault

theorem Same.stuck : Alike R (Eval.run Run.stuck) (Eval.run Run.stuck) :=
  fun _ => .stuck

/-- The state is read and changed alike. -/
theorem Same.state (f : RenderState → α × RenderState) :
    Same (modifyGet f : Eval α) (modifyGet f) :=
  fun _ => .done (.result rfl)

theorem Same.get : Same (get : Eval RenderState) get :=
  fun _ => .done (.result rfl)

end

open Tag Eval

section

variable {α : Type}

theorem Same.work (w : Work α) : Same (Eval.work w) (Eval.work w) := Same.act _

theorem Same.fail (f : ValueFault) : Same (Eval.fail f : Eval α) (Eval.fail f) := Same.throw _

theorem Same.modify (f : RenderState → RenderState) :
    Same (modify f : Eval Unit) (modify f) := Same.state _

end

theorem Tag.each_of_forall {use : TargetUse} {mayAwait : Bool} {xs : List Expr}
    (h : ∀ x ∈ xs, x.checkTarget use mayAwait = .ok ()) :
    checkEachTarget use mayAwait xs = .ok () := by
  induction xs with
  | nil => simp only [checkEachTarget]
  | cons x rest ih =>
    rw [List.forall_mem_cons] at h
    cases x with
    | starred => simp [Expr.checkTarget, faultAt] at h
    | _ =>
      simp only [checkEachTarget, checked_seq]
      exact ⟨h.1, ih h.2⟩

/-! ### Names -/

theorem Same.found (id : String) (found : Option Value) : Same
    (match found with | some v => Pure.pure v | none => MonadExcept.throw (.unbound id))
    (match found with | some v => Pure.pure v | none => MonadExcept.throw (.unbound id) :
      Eval Value) := by
  cases found with
  | some v => exact Alike.pure rfl
  | none => exact Same.throw _

theorem Same.knownName (id : String) : Same (knownName id) (knownName id) := by
  refine Same.bind Same.get fun s => ?_
  dsimp only
  split
  · exact Same.bind (Same.pure _) (Same.found id)
  · exact Same.bind (Same.work _) (Same.found id)
  · exact Same.bind (Same.bind (Same.work _) fun _ => Same.pure _) (Same.found id)

theorem Same.name (id : String) : Same (Eval.name id) (Eval.name id) := by
  refine Same.bind Same.get fun s => ?_
  cases s.scope.find? id with
  | some v => exact Same.pure v
  | none => exact Same.knownName id

theorem Same.setName (id : String) (v : Value) : Same (setName id v) (setName id v) :=
  Same.modify _

theorem Same.deleteName (id : String) : Same (deleteName id) (deleteName id) := by
  refine Same.bind Same.get fun s => ?_
  cases s.scope.find? id with
  | some v => exact Same.modify _
  | none => exact Same.throw _

theorem Same.beginCode : Same beginCode beginCode := by
  refine Same.bind Same.get fun s => ?_
  cases s.scope.find? Scope.fallbackName with
  | some v => exact Same.modify _
  | none =>
    refine Same.bind (Same.work _) fun dict => ?_
    refine Same.bind (Same.setName _ _) fun _ => ?_
    exact Same.modify _

/-! ### Expressions -/

theorem Same.compare (op : CompareOp) (a b : Value) : Same (Eval.compare op a b) (Eval.compare op a b) := by
  cases op with
  | eq => exact Same.work _
  | ne => exact Same.bind (Same.work _) fun _ => Same.pure _
  | lt => exact Same.act _
  | le => exact Same.act _
  | gt => exact Same.act _
  | ge => exact Same.act _
  | isIn => exact Same.act _
  | notIn => exact Same.bind (Same.act _) fun _ => Same.pure _
  | is => exact Same.pure _
  | isNot => exact Same.pure _

theorem Same.constant : Same constant constant := Same.bind Same.get fun _ => Same.pure _

theorem Same.call (f : Value) (args : List Value) : Same (call f args) (call f args) := by
  unfold Eval.call
  split
  · exact Same.act _
  · exact Same.act _
  · exact Same.act _
  · refine Same.bind (Same.act _) fun heap => ?_
    split
    · exact Same.act _
    · exact Same.pure _
  · exact Same.fail _

section

variable (e : Engine)

/-- The value of a member by an index that is no slice. -/
theorem Tag.Expr.eval_subscript {x index : Expr} {line : Nat}
    (h : ∀ start stop step l, index ≠ .slice start stop step l) :
    (Expr.subscript x index line).eval e = (do
      let v ← x.eval e
      let index ← index.eval e
      Eval.work (Work.item v index)) := by
  rw [Tag.Expr.eval]
  exact h

/-- The values of parts of which the first is not starred. -/
theorem evalParts_cons {x : Expr} {rest : List Expr} (h : ∀ v l, x ≠ .starred v l) :
    evalParts e (x :: rest) = (do
      let v ← x.eval e
      return v :: (← evalParts e rest)) := by
  rw [evalParts]
  exact h

end

section

variable (e e' : Engine)

mutual

/-- The value of an expression. -/
theorem Same.eval : (x : Expr) → x.check false = .ok () → Same (x.eval e) (x.eval e')
  | .literal v _, _ => by
    simp only [Tag.Expr.eval]
    exact Same.bind Same.constant fun _ => Same.pure _
  | .name id _, _ => by
    simp only [Tag.Expr.eval]
    split
    · exact Same.pure _
    · exact Same.name id
  | .list parts _, h => by
    simp only [Tag.Expr.check] at h
    simp only [Tag.Expr.eval]
    exact Same.bind (Same.evalParts parts h) fun _ => Same.work _
  | .tuple parts _, h => by
    simp only [Tag.Expr.check] at h
    simp only [Tag.Expr.eval]
    refine Same.bind (Same.evalParts parts h) fun _ => ?_
    split
    · exact Same.bind Same.constant fun _ => Same.pure _
    · exact Same.work _
  | .dict entries _, h => by
    simp only [Tag.Expr.check] at h
    simp only [Tag.Expr.eval]
    exact Same.bind (Same.evalEntries entries h) fun _ => Same.work _
  | .starred _ _, h => by cases h
  | .attribute x attr _, h => by
    simp only [Tag.Expr.check] at h
    simp only [Tag.Expr.eval]
    exact Same.bind (Same.eval x h) fun _ => Same.work _
  | .subscript x index _, h => by
    rw [Tag.Expr.check, checked_seq] at h
    obtain ⟨hx, hi⟩ := h
    cases index with
    | slice start stop step =>
      simp only [Tag.Expr.check, checked_seq] at hi
      simp only [Tag.Expr.eval]
      refine Same.bind (Same.eval x hx) fun _ => ?_
      refine Same.bind (Same.evalOption start hi.1) fun _ => ?_
      refine Same.bind (Same.evalOption stop hi.2.1) fun _ => ?_
      exact Same.bind (Same.evalOption step hi.2.2) fun _ => Same.work _
    | _ =>
      rw [Tag.Expr.eval_subscript e (by simp), Tag.Expr.eval_subscript e' (by simp)]
      exact Same.bind (Same.eval x hx) fun _ => Same.bind (Same.eval _ hi) fun _ => Same.work _
  | .slice .., _ => by
    simp only [Tag.Expr.eval]
    exact Same.pure _
  | .call f args _, h => by
    simp only [Tag.Expr.check, checked_seq] at h
    simp only [Tag.Expr.eval]
    refine Same.bind (Same.eval f h.1) fun f => ?_
    exact Same.bind (Same.evalParts args h.2) fun args => Same.call f args
  | .unary _ x _, h => by
    simp only [Tag.Expr.check] at h
    simp only [Tag.Expr.eval]
    exact Same.bind (Same.eval x h) fun _ => Same.work _
  | .binary _ left right _, h => by
    simp only [Tag.Expr.check, checked_seq] at h
    simp only [Tag.Expr.eval]
    refine Same.bind (Same.eval left h.1) fun _ => ?_
    exact Same.bind (Same.eval right h.2) fun _ => Same.work _
  | .compare first rest _, h => by
    simp only [Tag.Expr.check, checked_seq] at h
    simp only [Tag.Expr.eval]
    exact Same.bind (Same.eval first h.1) fun v => Same.evalCompared rest h.2 v
  | .both left right _, h => by
    simp only [Tag.Expr.check, checked_seq] at h
    simp only [Tag.Expr.eval]
    refine Same.bind (Same.eval left h.1) fun v => Same.bind (Same.work _) fun b => ?_
    cases b with
    | true => exact Same.eval right h.2
    | false => exact Same.pure v
  | .either left right _, h => by
    simp only [Tag.Expr.check, checked_seq] at h
    simp only [Tag.Expr.eval]
    refine Same.bind (Same.eval left h.1) fun v => Same.bind (Same.work _) fun b => ?_
    cases b with
    | true => exact Same.pure v
    | false => exact Same.eval right h.2
  | .conditional test yes no _, h => by
    simp only [Tag.Expr.check, checked_seq] at h
    simp only [Tag.Expr.eval]
    refine Same.bind (Same.eval test h.1) fun v => Same.bind (Same.work _) fun b => ?_
    cases b with
    | true => exact Same.eval yes h.2.1
    | false => exact Same.eval no h.2.2
  | .await _ _, h => by cases h
  | .yield .., h => by cases h
  | .foreign .., h => by cases h

/-- The value of an expression that may be missing. -/
theorem Same.evalOption : (x : Option Expr) → checkOption false x = .ok () →
    Same (evalOption e x) (evalOption e' x)
  | none, _ => by
    simp only [StreamTemplate.evalOption]
    exact Same.pure _
  | some x, h => by
    simp only [checkOption] at h
    simp only [StreamTemplate.evalOption]
    exact Same.eval x h

/-- The values of the parts of a display or of the arguments of a call. -/
theorem Same.evalParts : (xs : List Expr) → checkParts false xs = .ok () →
    Same (evalParts e xs) (evalParts e' xs)
  | [], _ => by
    simp only [StreamTemplate.evalParts]
    exact Same.pure _
  | x :: rest, h => by
    cases x with
    | starred x =>
      simp only [checkParts, checked_seq] at h
      simp only [StreamTemplate.evalParts]
      refine Same.bind (Same.eval x h.1) fun _ => Same.bind (Same.act _) fun _ => ?_
      exact Same.bind (Same.evalParts rest h.2) fun _ => Same.pure _
    | _ =>
      simp only [checkParts, checked_seq] at h
      rw [evalParts_cons e (by simp), evalParts_cons e' (by simp)]
      refine Same.bind (Same.eval _ h.1) fun _ => ?_
      exact Same.bind (Same.evalParts rest h.2) fun _ => Same.pure _

/-- The keys and values of a dictionary display. -/
theorem Same.evalEntries : (entries : List (Expr × Expr)) → checkEntries false entries = .ok () →
    Same (evalEntries e entries) (evalEntries e' entries)
  | [], _ => by
    simp only [StreamTemplate.evalEntries]
    exact Same.pure _
  | (key, value) :: rest, h => by
    simp only [checkEntries, checked_seq] at h
    simp only [StreamTemplate.evalEntries]
    refine Same.bind (Same.eval key h.1) fun _ => Same.bind (Same.eval value h.2.1) fun _ => ?_
    exact Same.bind (Same.evalEntries rest h.2.2) fun _ => Same.pure _

/-- The answer of chained comparisons. -/
theorem Same.evalCompared : (rest : List (CompareOp × Expr)) → checkCompared false rest = .ok () →
    (left : Value) → Same (evalCompared e left rest) (evalCompared e' left rest)
  | [], _, left => by
    simp only [StreamTemplate.evalCompared]
    exact Same.pure _
  | [(op, right)], h, left => by
    simp only [checkCompared, checked_seq] at h
    simp only [StreamTemplate.evalCompared]
    refine Same.bind (Same.eval right h.1) fun _ => ?_
    exact Same.bind (Same.compare op _ _) fun _ => Same.pure _
  | (op, right) :: next :: rest, h, left => by
    rw [checkCompared, checked_seq] at h
    simp only [StreamTemplate.evalCompared]
    refine Same.bind (Same.eval right h.1) fun v => Same.bind (Same.compare op _ _) fun b => ?_
    cases b with
    | true => exact Same.evalCompared (next :: rest) h.2 v
    | false => exact Same.pure _

end

/-! ### Targets -/

mutual

/-- The assignment to a target. -/
theorem Same.assign (v : Value) : (x : Expr) → x.checkTarget .assign false = .ok () →
    Same (x.assign e v) (x.assign e' v)
  | .name id _, _ => by
    simp only [Tag.Expr.assign]
    exact Same.setName id v
  | .attribute owner attr _, h => by
    simp only [Expr.checkTarget, checked_seq] at h
    simp only [Tag.Expr.assign]
    exact Same.bind (Same.eval e e' owner h.1) fun _ => Same.work _
  | .subscript owner index _, h => by
    rw [Expr.checkTarget, checked_seq] at h
    obtain ⟨ho, hi⟩ := h
    cases index with
    | slice start stop step =>
      simp only [Tag.Expr.check, checked_seq] at hi
      simp only [Tag.Expr.assign]
      refine Same.bind (Same.eval e e' owner ho) fun _ => ?_
      refine Same.bind (Same.evalOption e e' start hi.1) fun _ => ?_
      refine Same.bind (Same.evalOption e e' stop hi.2.1) fun _ => ?_
      exact Same.bind (Same.evalOption e e' step hi.2.2) fun _ => Same.act _
    | _ =>
      simp only [Tag.Expr.assign]
      refine Same.bind (Same.eval e e' owner ho) fun _ => ?_
      exact Same.bind (Same.eval e e' _ hi) fun _ => Same.work _
  | .list targets _, h => by
    simp only [Expr.checkTarget, checked_seq] at h
    simp only [Tag.Expr.assign]
    refine Same.bind (Same.act _) fun vs => ?_
    exact Same.assignEach targets h.2 vs
  | .tuple targets _, h => by
    simp only [Expr.checkTarget, checked_seq] at h
    simp only [Tag.Expr.assign]
    refine Same.bind (Same.act _) fun vs => ?_
    exact Same.assignEach targets h.2 vs
  | .starred _ _, h => by simp [Expr.checkTarget, faultAt] at h
  | .literal .., _ | .dict .., _ | .slice .., _ | .call .., _ | .unary .., _ | .binary .., _
  | .compare .., _ | .both .., _ | .either .., _ | .conditional .., _ | .await .., _ | .yield .., _
  | .foreign .., _ => by
    simp only [Tag.Expr.assign]
    exact Same.pure _

/-- Assignments one by one. -/
theorem Same.assignEach : (xs : List Expr) → checkEachTarget .assign false xs = .ok () →
    (vs : List Value) → Same (assignEach e xs vs) (assignEach e' xs vs)
  | [], _, vs => by
    simp only [StreamTemplate.assignEach]
    exact Same.pure _
  | x :: rest, h, [] => by
    simp only [StreamTemplate.assignEach]
    exact Same.pure _
  | x :: rest, h, v :: vs => by
    simp only [StreamTemplate.assignEach]
    cases x with
    | starred x =>
      simp only [checkEachTarget, checked_seq] at h
      simp only [Tag.Expr.assign]
      exact Same.bind (Same.assign v x h.1) fun _ => Same.assignEach rest h.2 vs
    | _ =>
      simp only [checkEachTarget, checked_seq] at h
      exact Same.bind (Same.assign v _ h.1) fun _ => Same.assignEach rest h.2 vs

end

mutual

/-- The deletion of a target. -/
theorem Same.delete : (x : Expr) → x.checkTarget .delete false = .ok () →
    Same (x.delete e) (x.delete e')
  | .name id _, _ => by
    simp only [Tag.Expr.delete]
    exact Same.deleteName id
  | .attribute owner attr _, h => by
    simp only [Expr.checkTarget, checked_seq] at h
    simp only [Tag.Expr.delete]
    exact Same.bind (Same.eval e e' owner h.1) fun _ => Same.work _
  | .subscript owner index _, h => by
    rw [Expr.checkTarget, checked_seq] at h
    obtain ⟨ho, hi⟩ := h
    cases index with
    | slice start stop step =>
      simp only [Tag.Expr.check, checked_seq] at hi
      simp only [Tag.Expr.delete]
      refine Same.bind (Same.eval e e' owner ho) fun _ => ?_
      refine Same.bind (Same.evalOption e e' start hi.1) fun _ => ?_
      refine Same.bind (Same.evalOption e e' stop hi.2.1) fun _ => ?_
      exact Same.bind (Same.evalOption e e' step hi.2.2) fun _ => Same.work _
    | _ =>
      simp only [Tag.Expr.delete]
      refine Same.bind (Same.eval e e' owner ho) fun _ => ?_
      exact Same.bind (Same.eval e e' _ hi) fun _ => Same.work _
  | .list targets _, h => by
    simp only [Expr.checkTarget, checked_seq] at h
    simp only [Tag.Expr.delete]
    exact Same.deleteEach targets h.2
  | .tuple targets _, h => by
    simp only [Expr.checkTarget, checked_seq] at h
    simp only [Tag.Expr.delete]
    exact Same.deleteEach targets h.2
  | .starred .., _ | .literal .., _ | .dict .., _ | .slice .., _ | .call .., _ | .unary .., _
  | .binary .., _ | .compare .., _ | .both .., _ | .either .., _ | .conditional .., _
  | .await .., _ | .yield .., _ | .foreign .., _ => by
    simp only [Tag.Expr.delete]
    exact Same.pure _

/-- Deletions one by one. -/
theorem Same.deleteEach : (xs : List Expr) → checkEachTarget .delete false xs = .ok () →
    Same (deleteEach e xs) (deleteEach e' xs)
  | [], _ => by
    simp only [StreamTemplate.deleteEach]
    exact Same.pure _
  | x :: rest, h => by
    simp only [StreamTemplate.deleteEach]
    cases x with
    | starred x =>
      simp only [checkEachTarget, checked_seq] at h
      simp only [Tag.Expr.delete]
      exact Same.bind (Same.pure _) fun _ => Same.deleteEach rest h.2
    | _ =>
      simp only [checkEachTarget, checked_seq] at h
      exact Same.bind (Same.delete _ h.1) fun _ => Same.deleteEach rest h.2

end

/-- The assignment of what an operator makes. -/
theorem Same.assignAugmented (op : BinaryOp) {value : Expr} (hv : value.check false = .ok ()) :
    (x : Expr) → x.checkTarget .assign false = .ok () →
    Same (assignAugmented e op value x) (assignAugmented e' op value x)
  | .name id _, _ => by
    refine Same.bind (Same.name id) fun _ => Same.bind (Same.eval e e' value hv) fun _ => ?_
    exact Same.bind (Same.act _) fun _ => Same.setName id _
  | .attribute owner attr _, h => by
    simp only [Expr.checkTarget, checked_seq] at h
    refine Same.bind (Same.eval e e' owner h.1) fun _ => Same.bind (Same.work _) fun _ => ?_
    exact Same.bind (Same.eval e e' value hv) fun _ => Same.act _
  | .subscript owner index _, h => by
    rw [Expr.checkTarget, checked_seq] at h
    obtain ⟨ho, hi⟩ := h
    cases index with
    | slice start stop step =>
      simp only [Tag.Expr.check, checked_seq] at hi
      refine Same.bind (Same.eval e e' owner ho) fun _ => ?_
      refine Same.bind (Same.evalOption e e' start hi.1) fun _ => ?_
      refine Same.bind (Same.evalOption e e' stop hi.2.1) fun _ => ?_
      refine Same.bind (Same.evalOption e e' step hi.2.2) fun _ => ?_
      refine Same.bind (Same.work _) fun _ => ?_
      exact Same.bind (Same.eval e e' value hv) fun _ => Same.act _
    | _ =>
      refine Same.bind (Same.eval e e' owner ho) fun _ => ?_
      refine Same.bind (Same.eval e e' _ hi) fun _ => Same.bind (Same.work _) fun _ => ?_
      exact Same.bind (Same.eval e e' value hv) fun _ => Same.act _
  | .literal .., _ | .list .., _ | .tuple .., _ | .dict .., _ | .starred .., _ | .slice .., _
  | .call .., _ | .unary .., _ | .binary .., _ | .compare .., _ | .both .., _ | .either .., _
  | .conditional .., _ | .await .., _ | .yield .., _ | .foreign .., _ => Same.pure _

/-! ### Statements -/

/-- Several things one after the other. -/
theorem Same.forM {α : Type} {f g : α → Eval Unit} (xs : List α)
    (h : ∀ x ∈ xs, Same (f x) (g x)) : Same (xs.forM f) (xs.forM g) := by
  induction xs with
  | nil => exact Same.pure _
  | cons x rest ih =>
    refine Same.bind (h x (List.mem_cons_self ..)) fun _ => ?_
    exact ih fun y hy => h y (List.mem_cons_of_mem x hy)

/-- What a loop that does not wait goes through. -/
def Iteration.IsPlain : Iteration → Prop
  | .plain _ => True
  | .async _ => False

theorem Same.iteration (v : Value) : Alike (fun a b => a = b ∧ a.IsPlain)
    (Eval.run (iteration false v)) (Eval.run (iteration false v)) := by
  intro s
  refine .act _ fun r => ?_
  cases r with
  | ok c => exact .done (.result ⟨rfl, trivial⟩)
  | error f => exact .done .fault

theorem Same.advance {c : Iteration} (hc : c.IsPlain) :
    Alike (fun a b => a = b ∧ ∀ r ∈ a, r.2.IsPlain) (Eval.run (c.advance e)) (Eval.run (c.advance e')) := by
  cases c with
  | async => cases hc
  | plain c =>
    intro s
    refine .act _ fun r => ?_
    cases r with
    | ok r =>
      refine .done (.result ⟨rfl, ?_⟩)
      cases r with
      | none => nofun
      | some r => rintro _ ⟨⟩; trivial
    | error f => exact .done .fault

/-- A loop within a tag. -/
theorem Same.loopItems {target : Expr} (ht : target.checkTarget .assign false = .ok ())
    {body body' : Eval Flow} (hb : Same body body') (rounds : Nat) {c : Iteration} (hc : c.IsPlain) :
    Same (loopItems e target body rounds c) (loopItems e' target body' rounds c) := by
  induction rounds generalizing c with
  | zero => exact Same.stuck
  | succ rounds ih =>
    refine Alike.bind (Same.advance e e' hc) fun a b h => ?_
    obtain ⟨rfl, plain⟩ := h
    cases a with
    | none => exact Same.pure _
    | some r =>
      refine Same.bind (Same.assign e e' r.1 target ht) fun _ => Same.bind hb fun flow => ?_
      cases flow with
      | breakLoop => exact Same.pure _
      | next | continueLoop => exact ih (plain r rfl)

/-- A conditional loop within a tag. -/
theorem Same.loopWhile {test test' : Eval Bool} (ht : Same test test') {body body' : Eval Flow}
    (hb : Same body body') (rounds : Nat) :
    Same (loopWhile test body rounds) (loopWhile test' body' rounds) := by
  induction rounds with
  | zero => exact Same.stuck
  | succ rounds ih =>
    refine Same.bind ht fun b => ?_
    cases b with
    | false => exact Same.pure _
    | true =>
      refine Same.bind hb fun flow => ?_
      cases flow with
      | breakLoop => exact Same.pure _
      | next | continueLoop => exact ih

mutual

/-- The execution of a statement. -/
theorem Same.exec (inLoop : Bool) : (x : Stmt) → x.check false inLoop = .ok () →
    Same (x.exec e) (x.exec e')
  | .expr v, h => by
    simp only [Stmt.check] at h
    simp only [Tag.Stmt.exec]
    exact Same.bind (Same.bind (Same.eval e e' v h) fun _ => Same.pure _) fun _ => Same.pure _
  | .assign targets value, h => by
    simp only [Stmt.check, checked_seq, checked_forM] at h
    simp only [Tag.Stmt.exec]
    refine Same.bind (Same.eval e e' value h.1) fun v => ?_
    refine Same.bind (Same.forM targets fun x hx => ?_) fun _ => Same.pure _
    exact Same.assign e e' v x (h.2 x hx)
  | .augmented target op value, h => by
    have hs : value.check false = .ok () ∧ target.checkTarget .assign false = .ok () := by
      simp only [Stmt.check] at h
      split at h
      all_goals
        rw [checked_seq, checked_seq] at h
        exact h.2
    simp only [Tag.Stmt.exec]
    exact Same.bind (Same.assignAugmented e e' op hs.1 target hs.2) fun _ => Same.pure _
  | .pass, _ => by
    simp only [Tag.Stmt.exec]
    exact Same.pure _
  | .delete targets, h => by
    simp only [Stmt.check, checked_forM] at h
    simp only [Tag.Stmt.exec]
    exact Same.bind (Same.deleteEach e e' targets (each_of_forall h)) fun _ => Same.pure _
  | .break _, _ => by
    simp only [Tag.Stmt.exec]
    exact Same.pure _
  | .continue _, _ => by
    simp only [Tag.Stmt.exec]
    exact Same.pure _
  | .return .., _ => by
    simp only [Tag.Stmt.exec]
    exact Same.pure _
  | .foreign .., _ => by
    simp only [Tag.Stmt.exec]
    exact Same.pure _
  | .ifElse test body orElse, h => by
    simp only [Stmt.check, checked_seq] at h
    simp only [Tag.Stmt.exec]
    refine Same.bind (Same.eval e e' test h.1) fun v => Same.bind (Same.work _) fun b => ?_
    cases b with
    | true => exact Same.execAll inLoop body h.2.1
    | false => exact Same.execAll inLoop orElse h.2.2
  | .forIn isAsync target iter body orElse _, h => by
    cases isAsync with
    | true => simp [Stmt.check, faultAt, checked_seq] at h
    | false =>
      simp only [Stmt.check, Bool.false_and, Bool.false_eq_true, if_false, checked_seq] at h
      obtain ⟨hi, ht, hb, ho⟩ := h
      simp only [Tag.Stmt.exec]
      refine Same.bind (Same.eval e e' iter hi) fun v => Alike.bind (Same.iteration v) ?_
      rintro c _ ⟨rfl, plain⟩
      refine Same.bind (Same.loopItems e e' ht (Same.execAll true body hb) patience plain) ?_
      intro b
      cases b with
      | true => exact Same.execAll inLoop orElse ho
      | false => exact Same.pure _
  | .whileDo test body orElse, h => by
    simp only [Stmt.check, checked_seq] at h
    simp only [Tag.Stmt.exec]
    have ht := Same.bind (Same.eval e e' test h.1) fun v => Same.work (Work.truth v)
    refine Same.bind (Same.loopWhile ht (Same.execAll true body h.2.1) patience) fun b => ?_
    cases b with
    | true => exact Same.execAll inLoop orElse h.2.2
    | false => exact Same.pure _
  | .withDo isAsync items body _, h => by
    cases isAsync with
    | true => simp [Stmt.check, faultAt, checked_seq] at h
    | false =>
      simp only [Stmt.check, Bool.false_and, Bool.false_eq_true, if_false, checked_seq] at h
      obtain ⟨hi, hb⟩ := h
      simp only [Tag.Stmt.exec]
      cases items with
      | nil => exact Same.execAll inLoop body hb
      | cons item rest =>
        have hm := checked_forM.mp hi item (List.mem_cons_self ..)
        rw [checked_seq] at hm
        exact Same.bind (Same.eval e e' item.1 hm.1) fun _ => Same.fail _

/-- The execution of statements in order. -/
theorem Same.execAll (inLoop : Bool) : (xs : List Stmt) → checkBody false inLoop xs = .ok () →
    Same (execAll e xs) (execAll e' xs)
  | [], _ => by
    simp only [StreamTemplate.execAll]
    exact Same.pure _
  | x :: rest, h => by
    simp only [checkBody, checked_seq] at h
    simp only [StreamTemplate.execAll]
    refine Same.bind (Same.exec inLoop x h.1) fun flow => ?_
    cases flow with
    | next => exact Same.execAll inLoop rest h.2
    | breakLoop | continueLoop => exact Same.pure _

end

/-! ### Pieces of code -/

theorem Same.evaluate {code : Code} (h : code.Waitless) : Same (code.eval e) (code.eval e') := by
  refine Same.bind Same.beginCode fun _ => ?_
  cases code with
  | expression v => exact Same.eval e e' v h
  | statements | target => exact Same.pure _

theorem Same.execute {code : Code} (h : code.Waitless) : Same (code.exec e) (code.exec e') := by
  refine Same.bind Same.beginCode fun _ => ?_
  cases code with
  | expression v => exact Same.bind (Same.eval e e' v h) fun _ => Same.pure _
  | statements body => exact Same.bind (Same.execAll e e' false body h) fun _ => Same.pure _
  | target place => exact Same.bind (Same.name _) fun v => Same.assign e e' v place h

end

end StreamTemplate
