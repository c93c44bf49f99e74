import StreamTemplate.Render.Interpreter

/-! # Things done last

What code does last, whether it fails or only if it does, and how that goes together with doing one
thing after the other. -/

namespace StreamTemplate

universe u

variable {m : Type → Type u} [Monad m]

/-- Does something last if something else fails. -/
def onFault {α : Type} (x : ExceptT Fault m α) (last : m Unit) : ExceptT Fault m α :=
  ExceptT.mk do
    match ← x.run with
    | .ok v => return .ok v
    | .error fault =>
      last
      return .error fault

section

variable [LawfulMonad m]

@[simp]
theorem onFault_pure {α : Type} (a : α) (last : m Unit) :
    onFault (pure a : ExceptT Fault m α) last = pure a := by
  apply ExceptT.ext
  simp [onFault]

@[simp]
theorem onFault_lift {α : Type} (x : m α) (last : m Unit) :
    onFault (ExceptT.lift x) last = ExceptT.lift x := by
  apply ExceptT.ext
  simp [onFault]

@[simp]
theorem onFault_liftM {α : Type} (x : m α) (last : m Unit) :
    onFault (liftM x : ExceptT Fault m α) last = liftM x :=
  onFault_lift x last

theorem onFault_bind {α β : Type} (x : ExceptT Fault m α) (f : α → ExceptT Fault m β)
    (last : m Unit) : onFault (x >>= f) last = onFault x last >>= fun a => onFault (f a) last := by
  apply ExceptT.ext
  simp only [onFault, ExceptT.run_bind, ExceptT.run_mk, bind_assoc]
  refine bind_congr fun r => ?_
  cases r <;> simp

@[simp]
theorem onFault_map {α β : Type} (f : α → β) (x : ExceptT Fault m α) (last : m Unit) :
    onFault (f <$> x) last = f <$> onFault x last := by
  rw [map_eq_pure_bind, onFault_bind]
  simp

@[simp]
theorem onFault_nothing {α : Type} (x : ExceptT Fault m α) : onFault x (pure ()) = x := by
  apply ExceptT.ext
  refine Eq.trans (bind_congr fun r => ?_) (bind_pure x.run)
  cases r <;> simp

theorem onFault_onFault {α : Type} (x : ExceptT Fault m α) (last after : m Unit) :
    onFault (onFault x last) after = onFault x (last >>= fun _ => after) := by
  apply ExceptT.ext
  simp only [onFault, ExceptT.run_mk, bind_assoc]
  refine bind_congr fun r => ?_
  cases r <;> simp

@[simp]
theorem ensuring_pure {α : Type} (a : α) (last : m Unit) :
    ensuring (pure a : ExceptT Fault m α) last = liftM last >>= fun _ => pure a := by
  apply ExceptT.ext
  simp [ensuring, Except.map]

theorem ensuring_bind {α β : Type} (x : ExceptT Fault m α) (f : α → ExceptT Fault m β)
    (last : m Unit) :
    ensuring (x >>= f) last = onFault x last >>= fun a => ensuring (f a) last := by
  apply ExceptT.ext
  simp only [onFault, ensuring, ExceptT.run_bind, ExceptT.run_mk, bind_assoc]
  refine bind_congr fun r => ?_
  cases r <;> simp

@[simp]
theorem ensuring_lift {α : Type} (x : m α) (last : m Unit) :
    ensuring (ExceptT.lift x : ExceptT Fault m α) last =
      ExceptT.lift x >>= fun a => liftM last >>= fun _ => pure a := by
  rw [← bind_pure (ExceptT.lift x), ensuring_bind]
  simp

end

end StreamTemplate
