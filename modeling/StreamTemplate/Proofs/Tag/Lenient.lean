import StreamTemplate.Tag.Language

/-! # Code that may wait may do more

What passes the check for code that may not wait passes the check for code that may, so the readers
of the language give the same code for both. -/

namespace StreamTemplate.Tag

/-- Two checks one after the other succeed if both do. -/
theorem checked_seq {x y : Checked} :
    (x >>= fun _ => y) = .ok () ↔ x = .ok () ∧ y = .ok () := by
  cases x with
  | error fault => simp [bind, Except.bind]
  | ok _ => simp [bind, Except.bind]

/-- Several checks one after the other succeed if all do. -/
theorem checked_forM {α : Type} {f : α → Checked} {xs : List α} :
    xs.forM f = .ok () ↔ ∀ x ∈ xs, f x = .ok () := by
  induction xs with
  | nil => simp [List.forM, pure, Except.pure]
  | cons x rest ih =>
    change (f x >>= fun _ => rest.forM f) = _ ↔ _
    rw [checked_seq, ih, List.forall_mem_cons]

/-! ### Expressions -/

mutual

theorem Expr.check_lenient : (x : Expr) → x.check false = .ok () → x.check true = .ok ()
  | .literal .., _ => by simp only [Expr.check]
  | .name .., _ => by simp only [Expr.check]
  | .list parts _, h => by
    simp only [Expr.check] at h ⊢
    exact checkParts_lenient parts h
  | .tuple parts _, h => by
    simp only [Expr.check] at h ⊢
    exact checkParts_lenient parts h
  | .dict entries _, h => by
    simp only [Expr.check] at h ⊢
    exact checkEntries_lenient entries h
  | .starred .., h => by simp [Expr.check, faultAt] at h
  | .attribute x _ _, h => by
    simp only [Expr.check] at h ⊢
    exact x.check_lenient h
  | .subscript x index _, h => by
    rw [Expr.check, checked_seq] at h ⊢
    exact ⟨x.check_lenient h.1, index.check_lenient h.2⟩
  | .slice start stop step _, h => by
    simp only [Expr.check, checked_seq] at h ⊢
    exact ⟨checkOption_lenient start h.1, checkOption_lenient stop h.2.1,
      checkOption_lenient step h.2.2⟩
  | .call f args _, h => by
    simp only [Expr.check, checked_seq] at h ⊢
    exact ⟨f.check_lenient h.1, checkParts_lenient args h.2⟩
  | .unary _ x _, h => by
    simp only [Expr.check] at h ⊢
    exact x.check_lenient h
  | .binary _ left right _, h => by
    simp only [Expr.check, checked_seq] at h ⊢
    exact ⟨left.check_lenient h.1, right.check_lenient h.2⟩
  | .compare first rest _, h => by
    simp only [Expr.check, checked_seq] at h ⊢
    exact ⟨first.check_lenient h.1, checkCompared_lenient rest h.2⟩
  | .both left right _, h => by
    simp only [Expr.check, checked_seq] at h ⊢
    exact ⟨left.check_lenient h.1, right.check_lenient h.2⟩
  | .either left right _, h => by
    simp only [Expr.check, checked_seq] at h ⊢
    exact ⟨left.check_lenient h.1, right.check_lenient h.2⟩
  | .conditional test yes no _, h => by
    simp only [Expr.check, checked_seq] at h ⊢
    exact ⟨test.check_lenient h.1, yes.check_lenient h.2.1, no.check_lenient h.2.2⟩
  | .await .., h => by simp [Expr.check, faultAt, checked_seq] at h
  | .yield .., h => by simp [Expr.check, faultAt] at h
  | .foreign .., h => by simp [Expr.check, faultAt] at h

theorem checkOption_lenient : (x : Option Expr) → checkOption false x = .ok () →
    checkOption true x = .ok ()
  | none, _ => by simp only [checkOption]
  | some x, h => by
    simp only [checkOption] at h ⊢
    exact x.check_lenient h

theorem checkParts_lenient : (xs : List Expr) → checkParts false xs = .ok () →
    checkParts true xs = .ok ()
  | [], _ => by simp only [checkParts]
  | x :: rest, h => by
    cases x with
    | starred x =>
      simp only [checkParts, checked_seq] at h ⊢
      exact ⟨x.check_lenient h.1, checkParts_lenient rest h.2⟩
    | _ =>
      simp only [checkParts, checked_seq] at h ⊢
      exact ⟨Expr.check_lenient _ h.1, checkParts_lenient rest h.2⟩

theorem checkEntries_lenient : (entries : List (Expr × Expr)) → checkEntries false entries = .ok () →
    checkEntries true entries = .ok ()
  | [], _ => by simp only [checkEntries]
  | (key, value) :: rest, h => by
    simp only [checkEntries, checked_seq] at h ⊢
    exact ⟨key.check_lenient h.1, value.check_lenient h.2.1, checkEntries_lenient rest h.2.2⟩

theorem checkCompared_lenient : (rest : List (CompareOp × Expr)) →
    checkCompared false rest = .ok () → checkCompared true rest = .ok ()
  | [], _ => by simp only [checkCompared]
  | (_, x) :: rest, h => by
    simp only [checkCompared, checked_seq] at h ⊢
    exact ⟨x.check_lenient h.1, checkCompared_lenient rest h.2⟩

end

/-! ### Targets -/

mutual

theorem Expr.checkTarget_lenient (use : TargetUse) : (x : Expr) →
    x.checkTarget use false = .ok () → x.checkTarget use true = .ok ()
  | .name .., h => by
    simp only [Expr.checkTarget] at h ⊢
    exact h
  | .attribute x _ _, h => by
    simp only [Expr.checkTarget, checked_seq] at h ⊢
    exact ⟨x.check_lenient h.1, h.2⟩
  | .subscript x index _, h => by
    rw [Expr.checkTarget, checked_seq] at h ⊢
    exact ⟨x.check_lenient h.1, index.check_lenient h.2⟩
  | .list parts _, h => by
    simp only [Expr.checkTarget, checked_seq] at h ⊢
    exact ⟨h.1, checkEachTarget_lenient use parts h.2⟩
  | .tuple parts _, h => by
    simp only [Expr.checkTarget, checked_seq] at h ⊢
    exact ⟨h.1, checkEachTarget_lenient use parts h.2⟩
  | .starred .., h => by simp [Expr.checkTarget, faultAt] at h
  | .literal .., _ | .dict .., _ | .slice .., _ | .call .., _ | .unary .., _ | .binary .., _
  | .compare .., _ | .both .., _ | .either .., _ | .conditional .., _ | .await .., _ | .yield .., _
  | .foreign .., _ => by simp only [Expr.checkTarget]

theorem checkEachTarget_lenient (use : TargetUse) : (xs : List Expr) →
    checkEachTarget use false xs = .ok () → checkEachTarget use true xs = .ok ()
  | [], _ => by simp only [checkEachTarget]
  | x :: rest, h => by
    cases x with
    | starred x =>
      simp only [checkEachTarget, checked_seq] at h ⊢
      exact ⟨x.checkTarget_lenient use h.1, checkEachTarget_lenient use rest h.2⟩
    | _ =>
      simp only [checkEachTarget, checked_seq] at h ⊢
      exact ⟨Expr.checkTarget_lenient use _ h.1, checkEachTarget_lenient use rest h.2⟩

end

/-! ### Statements -/

mutual

theorem Stmt.check_lenient (inLoop : Bool) : (x : Stmt) → x.check false inLoop = .ok () →
    x.check true inLoop = .ok ()
  | .expr v, h => by
    simp only [Stmt.check] at h ⊢
    exact v.check_lenient h
  | .assign targets value, h => by
    simp only [Stmt.check, checked_seq, checked_forM] at h ⊢
    exact ⟨value.check_lenient h.1, fun x hx => x.checkTarget_lenient .assign (h.2 x hx)⟩
  | .augmented target op value, h => by
    simp only [Stmt.check] at h ⊢
    split at h
    · simp only [checked_seq, true_and] at h ⊢
      exact ⟨value.check_lenient h.1, Expr.checkTarget_lenient .assign _ h.2⟩
    · simp only [checked_seq] at h ⊢
      exact ⟨Expr.check_lenient _ h.1, value.check_lenient h.2.1,
        Expr.checkTarget_lenient .assign _ h.2.2⟩
  | .pass, _ => by simp only [Stmt.check]
  | .delete targets, h => by
    simp only [Stmt.check, checked_forM] at h ⊢
    exact fun x hx => x.checkTarget_lenient .delete (h x hx)
  | .break _, h => by
    simp only [Stmt.check] at h ⊢
    exact h
  | .continue _, h => by
    simp only [Stmt.check] at h ⊢
    exact h
  | .return .., h => by simp [Stmt.check, faultAt] at h
  | .foreign .., h => by simp [Stmt.check, faultAt] at h
  | .ifElse test body orElse, h => by
    simp only [Stmt.check, checked_seq] at h ⊢
    exact ⟨test.check_lenient h.1, checkBody_lenient inLoop body h.2.1,
      checkBody_lenient inLoop orElse h.2.2⟩
  | .forIn isAsync target iter body orElse _, h => by
    cases isAsync with
    | true => simp [Stmt.check, faultAt, checked_seq] at h
    | false =>
      simp only [Stmt.check, Bool.false_and, Bool.false_eq_true, if_false, checked_seq] at h ⊢
      exact ⟨iter.check_lenient h.1, target.checkTarget_lenient .assign h.2.1,
        checkBody_lenient true body h.2.2.1, checkBody_lenient inLoop orElse h.2.2.2⟩
  | .whileDo test body orElse, h => by
    simp only [Stmt.check, checked_seq] at h ⊢
    exact ⟨test.check_lenient h.1, checkBody_lenient true body h.2.1,
      checkBody_lenient inLoop orElse h.2.2⟩
  | .withDo isAsync items body _, h => by
    cases isAsync with
    | true => simp [Stmt.check, faultAt, checked_seq] at h
    | false =>
      simp only [Stmt.check, Bool.false_and, Bool.false_eq_true, if_false, checked_seq] at h ⊢
      refine ⟨checked_forM.mpr fun item hi => ?_, checkBody_lenient inLoop body h.2⟩
      have hm := checked_forM.mp h.1 item hi
      simp only [checked_seq] at hm ⊢
      refine ⟨item.1.check_lenient hm.1, ?_⟩
      split at hm
      · exact Expr.checkTarget_lenient .assign _ hm.2
      · rfl

theorem checkBody_lenient (inLoop : Bool) : (xs : List Stmt) → checkBody false inLoop xs = .ok () →
    checkBody true inLoop xs = .ok ()
  | [], _ => by simp only [checkBody]
  | x :: rest, h => by
    simp only [checkBody, checked_seq] at h ⊢
    exact ⟨x.check_lenient inLoop h.1, checkBody_lenient inLoop rest h.2⟩

end

/-! ### Pieces of code -/

/-- Code that the check lets pass where code may not wait. -/
def Code.Waitless : Code → Prop
  | .expression v => v.check false = .ok ()
  | .statements body => checkBody false false body = .ok ()
  | .target place => place.checkLoopTarget = .ok ()

variable {κ : Type}

/-- What one reader gives another gives, too; and what it gives has a property. -/
def Lenient (P : κ → Prop) (x y : Except CodeFault κ) : Prop :=
  ∀ code, x = .ok code → y = .ok code ∧ P code

/-- A header whose parts are read like those of another. -/
inductive Header.Lenient (P : κ → Prop) : Header κ → Header κ → Prop
  | ifDo {x y} : Tag.Lenient P x y → Lenient P (.ifDo x) (.ifDo y)
  | whileDo {x y} : Tag.Lenient P x y → Lenient P (.whileDo x) (.whileDo y)
  | forIn {isAsync target target' iter iter'} : Tag.Lenient P target target' →
      Tag.Lenient P iter iter' → Lenient P (.forIn isAsync target iter) (.forIn isAsync target' iter')

/-- A language whose readers let code that may wait do whatever code that may not can do. -/
structure Language.Lenient (l : Language κ) (P : κ → Prop) : Prop where
  expression : ∀ text, Tag.Lenient P (l.expression false text) (l.expression true text)
  statements : ∀ text, Tag.Lenient P (l.statements false text) (l.statements true text)
  header : ∀ keyword text, Option.Rel (Header.Lenient P) (l.header false keyword text)
    (l.header true keyword text)

theorem lenient_checked {x y : Checked} {code : Code} {P : Code → Prop}
    (h : x = .ok () → y = .ok () ∧ P code) :
    Lenient P (x >>= fun _ => pure code) (y >>= fun _ => pure code) := by
  intro c hc
  cases hx : x with
  | error => rw [hx] at hc; cases hc
  | ok =>
    rw [hx] at hc
    cases hc
    exact ⟨by rw [(h hx).1]; rfl, (h hx).2⟩

theorem compilePart_lenient (e : Expr) :
    Lenient Code.Waitless (compilePart false e) (compilePart true e) :=
  lenient_checked fun h => ⟨e.check_lenient h, h⟩

theorem compileTarget_lenient (e : Expr) :
    Lenient Code.Waitless (compileTarget e) (compileTarget e) :=
  lenient_checked fun h => ⟨h, h⟩

theorem readHeader_lenient (keyword text : String) :
    Option.Rel (Header.Lenient Code.Waitless) (readHeader false keyword text)
      (readHeader true keyword text) := by
  have kept {b : Bool} {x y : Header Code} (h : Header.Lenient Code.Waitless x y) :
      Option.Rel (Header.Lenient Code.Waitless) (if b then some x else none)
        (if b then some y else none) := by
    cases b with
    | true => exact .some h
    | false => exact .none
  unfold readHeader
  split
  · exact kept (.ifDo (compilePart_lenient _))
  · exact kept (.whileDo (compilePart_lenient _))
  · exact kept (.forIn (compileTarget_lenient _) (compilePart_lenient _))
  · exact .none

/-- The language of this library is such a language. -/
theorem language_lenient : language.Lenient Code.Waitless where
  expression text := by
    change Lenient _ (readExpression text >>= _) (readExpression text >>= _)
    cases readExpression text with
    | error => nofun
    | ok e => exact lenient_checked fun h => ⟨e.check_lenient h, h⟩
  statements text := by
    change Lenient _ (readStatements text >>= _) (readStatements text >>= _)
    cases readStatements text with
    | error => nofun
    | ok body => exact lenient_checked fun h => ⟨checkBody_lenient false body h, h⟩
  header := readHeader_lenient

end StreamTemplate.Tag
