import StreamTemplate.Loop.Process

/-!
# Laws of processes

Processes form a lawful monad, and following a process that goes on with another one means to follow
the first and then, wherever it has come to, the second. For running code, which may fail, the same
rules are stated by the outcome of the first part.
-/

namespace StreamTemplate

namespace Process

variable {σ α β : Type}

theorem bind_done (p : Process σ α) : p.bind done = p := by
  induction p with
  | done a => rfl
  | stuck => rfl
  | act x k ih => exact congrArg (act x) (funext ih)
  | wait w k ih => exact congrArg (wait w) (funext ih)

theorem bind_bind {γ : Type} (p : Process σ α) (f : α → Process σ β) (g : β → Process σ γ) :
    (p.bind f).bind g = p.bind fun a => (f a).bind g := by
  induction p with
  | done a => rfl
  | stuck => rfl
  | act x k ih => exact congrArg (act x) (funext ih)
  | wait w k ih => exact congrArg (wait w) (funext ih)

instance : LawfulMonad (Process σ) :=
  LawfulMonad.mk' (Process σ) (fun p => bind_done p) (fun _ _ => rfl) (fun p f g => bind_bind p f g)

/-- What follows a process, put behind wherever the process has stopped. -/
def resume (f : α → Process σ β) : Halted σ α × σ → Halted σ β × σ
  | (.done a, s) => (f a).run s
  | (.stuck, s) => (.stuck, s)
  | (.waiting w k, s) => (.waiting w fun thrown => k thrown >>= f, s)

theorem run_bind (p : Process σ α) (f : α → Process σ β) (s : σ) :
    (p >>= f).run s = resume f (p.run s) := by
  induction p generalizing s with
  | done a => rfl
  | stuck => rfl
  | act x k ih => exact ih _ _
  | wait w k ih => rfl

/-- Every result that a process may end with has a property. -/
def Ends (P : α → Prop) : Process σ α → Prop
  | done a => P a
  | stuck => True
  | act _ k => ∀ b, (k b).Ends P
  | wait _ k => ∀ thrown, (k thrown).Ends P

theorem ends_true (p : Process σ α) : p.Ends fun _ => True := by
  induction p with
  | done a => trivial
  | stuck => trivial
  | act x k ih => exact ih
  | wait w k ih => exact ih

theorem Ends.mono {P Q : α → Prop} {p : Process σ α} (h : p.Ends P) (post : ∀ a, P a → Q a) :
    p.Ends Q := by
  induction p with
  | done a => exact post a h
  | stuck => trivial
  | act x k ih => exact fun b => ih b (h b)
  | wait w k ih => exact fun thrown => ih thrown (h thrown)

theorem Ends.bind {P : α → Prop} {Q : β → Prop} {p : Process σ α} {f : α → Process σ β}
    (h : p.Ends P) (next : ∀ a, P a → (f a).Ends Q) : (p >>= f).Ends Q := by
  induction p with
  | done a => exact next a h
  | stuck => trivial
  | act x k ih => exact fun b => ih b (h b)
  | wait w k ih => exact fun thrown => ih thrown (h thrown)

theorem bind_congr_of_ends {P : α → Prop} {p : Process σ α} {f g : α → Process σ β}
    (h : p.Ends P) (hfg : ∀ a, P a → f a = g a) : p >>= f = p >>= g := by
  induction p with
  | done a => exact hfg a h
  | stuck => rfl
  | act x k ih => exact congrArg (act x) (funext fun b => ih b (h b))
  | wait w k ih => exact congrArg (wait w) (funext fun thrown => ih thrown (h thrown))

/-- Two processes do the same things in the same order, never wait, and end in related ways. -/
inductive Alike (R : α → β → Prop) : Process σ α → Process σ β → Prop
  | done {a b} : R a b → Alike R (done a) (done b)
  | stuck : Alike R stuck stuck
  | act {γ : Type} (x : StateM σ γ) {k l} : (∀ c, Alike R (k c) (l c)) → Alike R (act x k) (act x l)

theorem Alike.bind {γ δ : Type} {R : α → β → Prop} {S : γ → δ → Prop} {p : Process σ α}
    {q : Process σ β} {f : α → Process σ γ} {g : β → Process σ δ} (h : Alike R p q)
    (hfg : ∀ a b, R a b → Alike S (f a) (g b)) : Alike S (p >>= f) (q >>= g) := by
  induction h with
  | done r => exact hfg _ _ r
  | stuck => exact .stuck
  | act x _ ih => exact .act x ih

/-- Two processes that do the same come to related ends in the same state, or both are stuck. -/
theorem Alike.run {R : α → β → Prop} {p : Process σ α} {q : Process σ β} (h : Alike R p q) (s : σ) :
    (∃ a b s', R a b ∧ p.run s = (.done a, s') ∧ q.run s = (.done b, s')) ∨
      ∃ s', p.run s = (.stuck, s') ∧ q.run s = (.stuck, s') := by
  induction h generalizing s with
  | done r => exact .inl ⟨_, _, s, r, rfl, rfl⟩
  | stuck => exact .inr ⟨s, rfl, rfl⟩
  | act x _ ih => exact ih _ _

end Process

theorem Act.run_bind {α β : Type} (x : Act α) (k : α → Act β) (s : Store) :
    (x >>= k).run.run s = match x.run.run s with
      | (.ok a, s') => (k a).run.run s'
      | (.error fault, s') => (.error fault, s') := by
  rw [ExceptT.run_bind, StateT.run_bind]
  obtain ⟨r, s'⟩ := x.run.run s
  cases r <;> rfl

namespace Run

variable {α β : Type} {x : Run α} {s s' : Store}

/-- What running code has come to when it ends or waits. -/
def upTo (x : Run α) (s : Store) : Halted Store (Except Fault α) × Store :=
  Process.run x.run s

theorem upTo_act (a : Act α) (s : Store) : (act a).upTo s = (.done (a.run s).1, (a.run s).2) := rfl

theorem upTo_ofExcept (r : Except Fault α) (s : Store) : (ofExcept r).upTo s = (.done r, s) := rfl

/-- What follows depends only on where the first part has come to. -/
theorem upTo_bind_congr {y : Run α} {s₁ : Store} (f : α → Run β) (h : x.upTo s = y.upTo s₁) :
    (x >>= f).upTo s = (y >>= f).upTo s₁ := by
  simp only [upTo] at h ⊢
  rw [ExceptT.run_bind, ExceptT.run_bind, Process.run_bind, Process.run_bind, h]

theorem upTo_attempt_congr {y : Run α} {s₁ : Store} (h : x.upTo s = y.upTo s₁) :
    (attempt x).upTo s = (attempt y).upTo s₁ := by
  simp only [upTo] at h ⊢
  unfold attempt
  rw [ExceptT.run_mk, ExceptT.run_mk, map_eq_pure_bind, map_eq_pure_bind, Process.run_bind,
    Process.run_bind, h]

theorem upTo_bind_ok {a : α} (f : α → Run β) (h : x.upTo s = (.done (.ok a), s')) :
    (x >>= f).upTo s = (f a).upTo s' := by
  simp only [upTo] at h ⊢
  rw [ExceptT.run_bind, Process.run_bind, h]
  rfl

theorem upTo_bind_error {e : Fault} (f : α → Run β) (h : x.upTo s = (.done (.error e), s')) :
    (x >>= f).upTo s = (.done (.error e), s') := by
  simp only [upTo] at h ⊢
  rw [ExceptT.run_bind, Process.run_bind, h]
  rfl

theorem upTo_bind_stuck (f : α → Run β) (h : x.upTo s = (.stuck, s')) :
    (x >>= f).upTo s = (.stuck, s') := by
  simp only [upTo] at h ⊢
  rw [ExceptT.run_bind, Process.run_bind, h]
  rfl

theorem upTo_bind_waiting {w : Wait} {k : Option Fault → Run α} (f : α → Run β)
    (h : x.upTo s = (.waiting w fun thrown => (k thrown).run, s')) :
    (x >>= f).upTo s = (.waiting w fun thrown => (k thrown >>= f).run, s') := by
  simp only [upTo] at h ⊢
  rw [ExceptT.run_bind, Process.run_bind, h]
  rfl

theorem upTo_attempt_done {r : Except Fault α} (h : x.upTo s = (.done r, s')) :
    (attempt x).upTo s = (.done (.ok r), s') := by
  simp only [upTo] at h ⊢
  unfold attempt
  rw [ExceptT.run_mk, map_eq_pure_bind, Process.run_bind, h]
  rfl

theorem upTo_attempt_stuck (h : x.upTo s = (.stuck, s')) : (attempt x).upTo s = (.stuck, s') := by
  simp only [upTo] at h ⊢
  unfold attempt
  rw [ExceptT.run_mk, map_eq_pure_bind, Process.run_bind, h]
  rfl

theorem upTo_attempt_waiting {w : Wait} {k : Option Fault → Run α}
    (h : x.upTo s = (.waiting w fun thrown => (k thrown).run, s')) :
    (attempt x).upTo s = (.waiting w fun thrown => (attempt (k thrown)).run, s') := by
  simp only [upTo] at h ⊢
  unfold attempt
  rw [ExceptT.run_mk, map_eq_pure_bind, Process.run_bind, h]
  rfl

theorem upTo_get (s : Store) : (act get).upTo s = (.done (.ok s), s) := rfl

theorem upTo_wait (w : Wait) (s : Store) :
    (wait w).upTo s =
      (.waiting w fun thrown => (ofExcept (thrown.elim (.ok ()) .error) : Run Unit).run, s) := by
  refine congrArg (fun k => (Halted.waiting w k, s)) (funext fun thrown => ?_)
  cases thrown <;> rfl

theorem discard_eq (x : Run α) : discard x = x >>= fun _ => pure () :=
  map_eq_pure_bind _ x

theorem upTo_ensuring_done {r : Except Fault α} {last : Run Unit} {s'' : Store}
    (h : x.upTo s = (.done r, s')) (hl : last.upTo s' = (.done (.ok ()), s'')) :
    (ensuring x last).upTo s = (.done r, s'') := by
  unfold ensuring
  rw [upTo_bind_ok _ (upTo_attempt_done h), upTo_bind_ok _ hl, upTo_ofExcept]

theorem upTo_ensuring_stuck {last : Run Unit} (h : x.upTo s = (.stuck, s')) :
    (ensuring x last).upTo s = (.stuck, s') :=
  upTo_bind_stuck _ (upTo_attempt_stuck h)

theorem upTo_ensuring_waiting {w : Wait} {k : Option Fault → Run α} {last : Run Unit}
    (h : x.upTo s = (.waiting w fun thrown => (k thrown).run, s')) :
    (ensuring x last).upTo s = (.waiting w fun thrown => (ensuring (k thrown) last).run, s') :=
  upTo_bind_waiting _ (upTo_attempt_waiting h)

end Run

end StreamTemplate
