import StreamTemplate.Proofs.Loop.Engine
import StreamTemplate.Proofs.Render.Waitless

/-!
# What code in tags does

The code in a tag is in every conduct, and it does not change which instruction is being executed. Only
entering an instruction does.
-/

namespace StreamTemplate

open Tag Eval

variable {gives : Progress → Prop} {C : ConductGiving gives}

/-- Rendering code is in a conduct if, besides, it stays at its instruction. -/
instance : Ruled C (StateT RenderState (Process Store)) where
  holds x := ∀ ρ, Obeys C (x.run ρ) ∧ (x.run ρ).Ends fun r => r.2.tag = ρ.tag ∧ r.2.site = ρ.site
  pure _ _ := ⟨obeys_pure _, rfl, rfl⟩
  bind hx hf ρ := by
    refine ⟨(hx ρ).1.bind fun r => (hf r.1 r.2).1, (hx ρ).2.bind fun r stays => ?_⟩
    exact (hf r.1 r.2).2.mono fun r' later => ⟨later.1.trans stays.1, later.2.trans stays.2⟩

namespace Eval

section

variable {α : Type}

theorem obeys_run {x : Run α} (hx : Obeys C x) : Obeys C (run x) := by
  refine fun ρ => ⟨hx.run.bind fun r => obeys_pure _, ?_⟩
  exact (Process.ends_true _).bind fun r _ => ⟨rfl, rfl⟩

theorem obeys_act {a : Act α} (ha : Obeys C a) : Obeys C (act a) :=
  obeys_run (Run.obeys_act ha)

theorem obeys_work (w : Work α) : Obeys C (work w) :=
  obeys_run (Run.obeys_work w)

theorem obeys_fail (f : ValueFault) : Obeys C (fail f : Eval α) :=
  obeys_throw _

theorem obeys_get : Obeys C (get : Eval RenderState) :=
  fun _ => ⟨obeys_pure _, rfl, rfl⟩

theorem obeys_modify {f : RenderState → RenderState} (tag : ∀ ρ, (f ρ).tag = ρ.tag)
    (site : ∀ ρ, (f ρ).site = ρ.site) : Obeys C (modify f : Eval Unit) :=
  fun ρ => ⟨obeys_pure _, tag ρ, site ρ⟩

end

/-! ### Names -/

theorem obeys_setName (id : String) (v : Value) : Obeys C (setName id v) :=
  obeys_modify (fun _ => rfl) fun _ => rfl

theorem obeys_beginCode : Obeys C beginCode := by
  have goOn (v : Value) : Obeys C (modify fun ρ =>
      { ρ with fallback := if v.same (.builtin .module) then .known else .members v } : Eval Unit) :=
    obeys_modify (fun _ => rfl) fun _ => rfl
  refine obeys_get.bind fun ρ => ?_
  dsimp only
  split
  · exact goOn _
  · refine (obeys_work _).bind fun dict => (obeys_setName _ dict).bind fun _ => ?_
    exact goOn dict

theorem obeys_knownName (id : String) : Obeys C (knownName id) := by
  refine obeys_get.bind fun ρ => ?_
  extract_lets found
  have found (v : Option Value) : Obeys C (found v) := by
    cases v with
    | some v => exact obeys_pure v
    | none => exact obeys_throw _
  split
  · exact (obeys_pure _).bind found
  · exact (obeys_work _).bind found
  · exact Obeys.bind ((obeys_work _).map some) found

theorem obeys_name (id : String) : Obeys C (name id) := by
  refine obeys_get.bind fun ρ => ?_
  split
  · exact obeys_pure _
  · exact obeys_knownName id

theorem obeys_deleteName (id : String) : Obeys C (deleteName id) := by
  refine obeys_get.bind fun ρ => ?_
  split
  · exact obeys_modify (fun _ => rfl) fun _ => rfl
  · exact obeys_throw _

/-! ### Calls and comparisons -/

theorem obeys_callScript (script : FunctionScript) : Obeys C (callScript script) := by
  obtain ⟨log, raises, part, hasContext, returns⟩ := script
  unfold callScript
  dsimp -zeta only
  extract_lets answer raise
  have answer (u : Unit) : Obeys C (answer u) := by
    dsimp only [answer]
    split
    · refine Obeys.bind (Act.obeys_get.bind fun s => ?_) fun _ => obeys_pure _
      split
      · exact obeys_pure _
      · exact obeys_throw _
    · split
      · exact Act.obeys_get.bind fun _ => obeys_pure _
      · split
        · exact obeys_build _
        · exact obeys_pure _
  have raise (u : Unit) : Obeys C (raise u) := by
    cases raises with
    | some fault =>
      exact (obeys_buildFault fault).bind fun _ => (obeys_throw _).bind answer
    | none => exact answer ()
  cases log with
  | some text => exact .bind (Act.obeys_modify fun _ => ⟨rfl, rfl, rfl, rfl, rfl, rfl⟩) raise
  | none => exact raise ()

theorem obeys_call (f : Value) (args : List Value) : Obeys C (call f args) := by
  unfold call
  split
  · exact obeys_act (Act.obeys_callBuiltin _ args)
  · exact obeys_act (Act.obeys_callBuiltin _ args)
  · exact obeys_act (Act.obeys_callMethod _ _ args)
  · refine (obeys_act Act.obeys_heap).bind fun heap => ?_
    split
    · exact obeys_act (obeys_callScript _)
    · exact obeys_pure _
  · exact obeys_fail _

theorem obeys_compare (op : CompareOp) (a b : Value) : Obeys C (Eval.compare op a b) := by
  cases op with
  | eq => exact obeys_work _
  | ne => exact (obeys_work _).bind fun _ => obeys_pure _
  | lt | le | gt | ge => exact obeys_act (Act.obeys_view _)
  | isIn => exact obeys_act (Act.obeys_contains a b)
  | notIn => exact (obeys_act (Act.obeys_contains a b)).bind fun _ => obeys_pure _
  | is | isNot => exact obeys_pure _

theorem obeys_constant : Obeys C constant :=
  obeys_get.bind fun _ => obeys_pure _

theorem obeys_spread (v : Value) : Obeys C (spread v) := by
  refine (Act.obeys_cursor? v).bind fun c => ?_
  split
  · exact Act.obeys_drain _
  · exact Act.obeys_fail _

end Eval

section

variable {e : Engine}

/-! ### Expressions -/

mutual

theorem obeys_eval (he : e.Obeys C) : (x : Expr) → Obeys C (x.eval e)
  | .literal _ _ => by
    simp only [Tag.Expr.eval]
    exact obeys_constant.bind fun _ => obeys_pure _
  | .name id _ => by
    simp only [Tag.Expr.eval]
    split
    · exact obeys_pure _
    · exact obeys_name id
  | .list parts _ => by
    simp only [Tag.Expr.eval]
    exact (obeys_evalParts he parts).bind fun _ => obeys_work _
  | .tuple parts _ => by
    simp only [Tag.Expr.eval]
    refine (obeys_evalParts he parts).bind fun _ => ?_
    split
    · exact obeys_constant.bind fun _ => obeys_pure _
    · exact obeys_work _
  | .dict entries _ => by
    simp only [Tag.Expr.eval]
    exact (obeys_evalEntries he entries).bind fun _ => obeys_work _
  | .starred x _ => by
    simp only [Tag.Expr.eval]
    exact obeys_eval he x
  | .attribute x _ _ => by
    simp only [Tag.Expr.eval]
    exact (obeys_eval he x).bind fun _ => obeys_work _
  | .subscript x index _ => by
    cases index with
    | slice start stop step =>
      simp only [Tag.Expr.eval]
      refine (obeys_eval he x).bind fun _ => (obeys_evalOption he start).bind fun _ => ?_
      refine (obeys_evalOption he stop).bind fun _ => (obeys_evalOption he step).bind fun _ => ?_
      exact obeys_work _
    | _ =>
      rw [Tag.Expr.eval_subscript e (by simp)]
      exact (obeys_eval he x).bind fun _ => (obeys_eval he _).bind fun _ => obeys_work _
  | .slice .. | .yield .. | .foreign .. => by
    simp only [Tag.Expr.eval]
    exact obeys_pure _
  | .call f args _ => by
    simp only [Tag.Expr.eval]
    exact (obeys_eval he f).bind fun f => (obeys_evalParts he args).bind fun args => obeys_call f args
  | .unary _ x _ => by
    simp only [Tag.Expr.eval]
    exact (obeys_eval he x).bind fun _ => obeys_work _
  | .binary _ left right _ => by
    simp only [Tag.Expr.eval]
    exact (obeys_eval he left).bind fun _ => (obeys_eval he right).bind fun _ => obeys_work _
  | .compare first rest _ => by
    simp only [Tag.Expr.eval]
    exact (obeys_eval he first).bind fun v => obeys_evalCompared he rest v
  | .both left right _ => by
    simp only [Tag.Expr.eval]
    refine (obeys_eval he left).bind fun _ => (obeys_work _).bind fun _ => ?_
    split
    · exact obeys_eval he right
    · exact obeys_pure _
  | .either left right _ => by
    simp only [Tag.Expr.eval]
    refine (obeys_eval he left).bind fun _ => (obeys_work _).bind fun _ => ?_
    split
    · exact obeys_pure _
    · exact obeys_eval he right
  | .conditional test yes no _ => by
    simp only [Tag.Expr.eval]
    refine (obeys_eval he test).bind fun _ => (obeys_work _).bind fun _ => ?_
    split
    · exact obeys_eval he yes
    · exact obeys_eval he no
  | .await x _ => by
    simp only [Tag.Expr.eval]
    exact (obeys_eval he x).bind fun v => obeys_run (obeys_awaitValue he v)

theorem obeys_evalOption (he : e.Obeys C) : (x : Option Expr) → Obeys C (evalOption e x)
  | none => by
    simp only [evalOption]
    exact obeys_pure _
  | some x => by
    simp only [evalOption]
    exact obeys_eval he x

theorem obeys_evalParts (he : e.Obeys C) : (xs : List Expr) → Obeys C (evalParts e xs)
  | [] => by
    simp only [evalParts]
    exact obeys_pure _
  | x :: rest => by
    cases x with
    | starred x =>
      simp only [evalParts]
      refine (obeys_eval he x).bind fun v => (obeys_act (obeys_spread v)).bind fun _ => ?_
      exact (obeys_evalParts he rest).bind fun _ => obeys_pure _
    | _ =>
      rw [evalParts_cons e (by simp)]
      exact (obeys_eval he _).bind fun _ => (obeys_evalParts he rest).bind fun _ => obeys_pure _

theorem obeys_evalEntries (he : e.Obeys C) : (xs : List (Expr × Expr)) → Obeys C (evalEntries e xs)
  | [] => by
    simp only [evalEntries]
    exact obeys_pure _
  | (key, value) :: rest => by
    simp only [evalEntries]
    refine (obeys_eval he key).bind fun _ => (obeys_eval he value).bind fun _ => ?_
    exact (obeys_evalEntries he rest).bind fun _ => obeys_pure _

theorem obeys_evalCompared (he : e.Obeys C) : (rest : List (CompareOp × Expr)) → (left : Value) →
    Obeys C (evalCompared e left rest)
  | [], _ => by
    simp only [evalCompared]
    exact obeys_pure _
  | [(op, right)], _ => by
    simp only [evalCompared]
    exact (obeys_eval he right).bind fun _ => (obeys_compare op _ _).bind fun _ => obeys_pure _
  | (op, right) :: next :: rest, _ => by
    simp only [evalCompared]
    refine (obeys_eval he right).bind fun v => (obeys_compare op _ _).bind fun _ => ?_
    split
    · exact obeys_evalCompared he (next :: rest) v
    · exact obeys_pure _

end

/-! ### Targets -/

theorem obeys_membersFor (targets : List Expr) (v : Value) :
    Obeys C (membersFor targets v) := by
  unfold membersFor
  split
  · exact Act.obeys_unpack _ v
  · refine (Act.obeys_unpackAround _ _ v).bind fun parts => ?_
    exact (Act.obeys_work _).bind fun _ => obeys_pure _

mutual

theorem obeys_assign (he : e.Obeys C) (v : Value) : (x : Expr) → Obeys C (x.assign e v)
  | .name id _ => by
    simp only [Tag.Expr.assign]
    exact obeys_setName id v
  | .attribute owner _ _ => by
    simp only [Tag.Expr.assign]
    exact (obeys_eval he owner).bind fun _ => obeys_work _
  | .subscript owner index _ => by
    cases index with
    | slice start stop step =>
      simp only [Tag.Expr.assign]
      refine (obeys_eval he owner).bind fun _ => (obeys_evalOption he start).bind fun _ => ?_
      refine (obeys_evalOption he stop).bind fun _ => ?_
      refine (obeys_evalOption he step).bind fun _ => ?_
      exact obeys_act (Act.obeys_setItemSlice _ _ _ _ v)
    | _ =>
      simp only [Tag.Expr.assign]
      exact (obeys_eval he owner).bind fun _ => (obeys_eval he _).bind fun _ => obeys_work _
  | .list targets _ | .tuple targets _ => by
    simp only [Tag.Expr.assign]
    exact (obeys_act (obeys_membersFor targets v)).bind fun vs => obeys_assignEach he targets vs
  | .starred x _ => by
    simp only [Tag.Expr.assign]
    exact obeys_assign he v x
  | .literal .. | .dict .. | .slice .. | .call .. | .unary .. | .binary .. | .compare .. | .both ..
  | .either .. | .conditional .. | .await .. | .yield .. | .foreign .. => by
    simp only [Tag.Expr.assign]
    exact obeys_pure _

theorem obeys_assignEach (he : e.Obeys C) :
    (xs : List Expr) → (vs : List Value) → Obeys C (assignEach e xs vs)
  | [], _ => by
    simp only [assignEach]
    exact obeys_pure _
  | _ :: _, [] => by
    simp only [assignEach]
    exact obeys_pure _
  | x :: rest, v :: vs => by
    simp only [assignEach]
    exact (obeys_assign he v x).bind fun _ => obeys_assignEach he rest vs

end

mutual

theorem obeys_delete (he : e.Obeys C) : (x : Expr) → Obeys C (x.delete e)
  | .name id _ => by
    simp only [Tag.Expr.delete]
    exact obeys_deleteName id
  | .attribute owner _ _ => by
    simp only [Tag.Expr.delete]
    exact (obeys_eval he owner).bind fun _ => obeys_work _
  | .subscript owner index _ => by
    cases index with
    | slice start stop step =>
      simp only [Tag.Expr.delete]
      refine (obeys_eval he owner).bind fun _ => (obeys_evalOption he start).bind fun _ => ?_
      refine (obeys_evalOption he stop).bind fun _ => ?_
      exact (obeys_evalOption he step).bind fun _ => obeys_work _
    | _ =>
      simp only [Tag.Expr.delete]
      exact (obeys_eval he owner).bind fun _ => (obeys_eval he _).bind fun _ => obeys_work _
  | .list targets _ | .tuple targets _ => by
    simp only [Tag.Expr.delete]
    exact obeys_deleteEach he targets
  | .starred .. | .literal .. | .dict .. | .slice .. | .call .. | .unary .. | .binary ..
  | .compare .. | .both .. | .either .. | .conditional .. | .await .. | .yield .. | .foreign .. => by
    simp only [Tag.Expr.delete]
    exact obeys_pure _

theorem obeys_deleteEach (he : e.Obeys C) : (xs : List Expr) → Obeys C (deleteEach e xs)
  | [] => by
    simp only [deleteEach]
    exact obeys_pure _
  | x :: rest => by
    simp only [deleteEach]
    exact (obeys_delete he x).bind fun _ => obeys_deleteEach he rest

end

theorem obeys_assignAugmented (he : e.Obeys C) (op : BinaryOp) (value x : Expr) :
    Obeys C (assignAugmented e op value x) := by
  cases x with
  | name id =>
    refine (obeys_name id).bind fun _ => (obeys_eval he value).bind fun _ => ?_
    exact (obeys_act (Act.obeys_augment op _ _)).bind fun _ => obeys_setName id _
  | «attribute» owner =>
    refine (obeys_eval he owner).bind fun _ => (obeys_work _).bind fun _ => ?_
    refine (obeys_eval he value).bind fun _ => obeys_act ?_
    exact (Act.obeys_augment op _ _).bind fun _ => Act.obeys_work _
  | subscript owner index =>
    cases index with
    | slice start stop step =>
      refine (obeys_eval he owner).bind fun _ => (obeys_evalOption he start).bind fun _ => ?_
      refine (obeys_evalOption he stop).bind fun _ => ?_
      refine (obeys_evalOption he step).bind fun _ => (obeys_work _).bind fun _ => ?_
      refine (obeys_eval he value).bind fun _ => obeys_act ?_
      exact (Act.obeys_augment op _ _).bind fun _ => Act.obeys_setItemSlice _ _ _ _ _
    | _ =>
      refine (obeys_eval he owner).bind fun _ => (obeys_eval he _).bind fun _ => ?_
      refine (obeys_work _).bind fun _ => (obeys_eval he value).bind fun _ => obeys_act ?_
      exact (Act.obeys_augment op _ _).bind fun _ => Act.obeys_work _
  | _ => exact obeys_pure _

/-! ### Statements -/

theorem obeys_iteration (isAsync : Bool) (v : Value) : Obeys C (iteration isAsync v) := by
  unfold iteration
  split
  · exact (obeys_asyncIterator v).bind fun _ => obeys_pure _
  · exact (Run.obeys_act (Act.obeys_cursor v)).bind fun _ => obeys_pure _

theorem Iteration.obeys_advance (he : e.Obeys C) (c : Iteration) :
    Obeys C (c.advance e) := by
  cases c with
  | plain c => exact (Run.obeys_act (Act.obeys_advance c)).bind fun _ => obeys_pure _
  | async iterator => exact (obeys_nextOrEnd he iterator).bind fun _ => obeys_pure _

theorem obeys_loopItems (he : e.Obeys C) (target : Expr) {body : Eval Flow}
    (hb : Obeys C body) (rounds : Nat) (c : Iteration) :
    Obeys C (loopItems e target body rounds c) := by
  induction rounds generalizing c with
  | zero => exact obeys_run Run.obeys_stuck
  | succ rounds ih =>
    refine (obeys_run (c.obeys_advance he)).bind fun next => ?_
    split
    · exact obeys_pure _
    · refine (obeys_assign he _ target).bind fun _ => hb.bind fun flow => ?_
      split
      · exact obeys_pure _
      · exact ih _

theorem obeys_loopWhile {test : Eval Bool} (ht : Obeys C test) {body : Eval Flow}
    (hb : Obeys C body) (rounds : Nat) : Obeys C (loopWhile test body rounds) := by
  induction rounds with
  | zero => exact obeys_run Run.obeys_stuck
  | succ rounds ih =>
    refine ht.bind fun more => ?_
    split
    · refine hb.bind fun flow => ?_
      split
      · exact obeys_pure _
      · exact ih
    · exact obeys_pure _

mutual

theorem obeys_exec (he : e.Obeys C) : (x : Stmt) → Obeys C (x.exec e)
  | .expr v => by
    simp only [Tag.Stmt.exec]
    exact Obeys.bind ((obeys_eval he v).map _) fun _ => obeys_pure _
  | .assign targets value => by
    simp only [Tag.Stmt.exec]
    refine (obeys_eval he value).bind fun v => ?_
    exact (obeys_forM (obeys_assign he v) targets).bind fun _ => obeys_pure _
  | .augmented target op value => by
    simp only [Tag.Stmt.exec]
    exact (obeys_assignAugmented he op value target).bind fun _ => obeys_pure _
  | .delete targets => by
    simp only [Tag.Stmt.exec]
    exact (obeys_deleteEach he targets).bind fun _ => obeys_pure _
  | .pass | .break _ | .continue _ | .return .. | .foreign .. => by
    simp only [Tag.Stmt.exec]
    exact obeys_pure _
  | .ifElse test body orElse => by
    simp only [Tag.Stmt.exec]
    refine (obeys_eval he test).bind fun _ => (obeys_work _).bind fun _ => ?_
    split
    · exact obeys_execAll he body
    · exact obeys_execAll he orElse
  | .forIn isAsync target iter body orElse _ => by
    simp only [Tag.Stmt.exec]
    refine (obeys_eval he iter).bind fun v => (obeys_run (obeys_iteration isAsync v)).bind
      fun start => ?_
    refine (obeys_loopItems he target (obeys_execAll he body) patience start).bind fun _ => ?_
    split
    · exact obeys_execAll he orElse
    · exact obeys_pure _
  | .whileDo test body orElse => by
    simp only [Tag.Stmt.exec]
    have holds : Obeys C (do truth (← test.eval e)) :=
      (obeys_eval he test).bind fun _ => obeys_work _
    refine (obeys_loopWhile holds (obeys_execAll he body) patience).bind fun _ => ?_
    split
    · exact obeys_execAll he orElse
    · exact obeys_pure _
  | .withDo isAsync items body _ => by
    simp only [Tag.Stmt.exec]
    split
    · exact (obeys_eval he _).bind fun _ => obeys_fail _
    · exact obeys_execAll he body

theorem obeys_execAll (he : e.Obeys C) : (xs : List Stmt) → Obeys C (execAll e xs)
  | [] => by
    simp only [execAll]
    exact obeys_pure _
  | x :: rest => by
    simp only [execAll]
    refine (obeys_exec he x).bind fun flow => ?_
    split
    · exact obeys_execAll he rest
    · exact obeys_pure _

end

theorem Tag.Code.obeys_eval (he : e.Obeys C) (code : Code) : Obeys C (code.eval e) := by
  refine obeys_beginCode.bind fun _ => ?_
  split
  · exact StreamTemplate.obeys_eval he _
  · exact obeys_pure _

theorem Tag.Code.obeys_exec (he : e.Obeys C) (code : Code) : Obeys C (code.exec e) := by
  refine obeys_beginCode.bind fun _ => ?_
  split
  · exact (StreamTemplate.obeys_eval he _).map _
  · exact (obeys_execAll he _).map _
  · exact (obeys_name _).bind fun v => obeys_assign he v _

end

end StreamTemplate
