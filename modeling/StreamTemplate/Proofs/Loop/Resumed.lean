import StreamTemplate.Loop.Task
import StreamTemplate.Proofs.Loop.Process

/-!
# Code that an event loop resumes

Code that waits is resumed once what it waits for is finished, or to be cancelled. `RunsInLoop` are its
complete runs when nothing else resumes it and others keep to a rule while it waits. The rules by
which such a run is taken apart follow the ways in which running code is put together.
-/

namespace StreamTemplate

/-- With what and in which store a wait is over: it is finished, or it is cancelled. -/
inductive Wait.Over : Wait → Option Fault → Store → Prop
  | turn {s} : Over .turn none s
  | finished {w v s} (progress : s.progress w = .finished v) : Over (.future w) none s
  | cancelled {w fault s} (cancellation : fault.isA .cancelled) : Over w (some fault) s

namespace Process

variable {J : Store → Store → Prop} {α β : Type} {s s' : Store}

/-- Complete runs of a process in an event loop: what others do while it waits is as `J` says, and it
goes on when its wait is over. -/
inductive RunsInLoop (J : Store → Store → Prop) : Process Store α → Store → α → Store → Prop
  | done {a s} : RunsInLoop J (done a) s a s
  | act {γ : Type} {x : StateM Store γ} {k s a s'}
      (rest : RunsInLoop J (k (x.run s).1) (x.run s).2 a s') : RunsInLoop J (act x k) s a s'
  | wait {w k thrown s s₁ a s'} (others : J s s₁) (passed : w.Over thrown s₁)
      (rest : RunsInLoop J (k thrown) s₁ a s') : RunsInLoop J (wait w k) s a s'

namespace RunsInLoop

theorem of_bind {p : Process Store α} {f : α → Process Store β} {b : β}
    (h : (p >>= f).RunsInLoop J s b s') :
    ∃ a s₁, p.RunsInLoop J s a s₁ ∧ (f a).RunsInLoop J s₁ b s' := by
  induction p generalizing s with
  | done a => exact ⟨a, s, .done, h⟩
  | stuck => cases h
  | act x k ih =>
    cases h with
    | act rest =>
      obtain ⟨a, s₁, first, second⟩ := ih _ rest
      exact ⟨a, s₁, .act first, second⟩
  | wait w k ih =>
    cases h with
    | wait others passed rest =>
      obtain ⟨a, s₁, first, second⟩ := ih _ rest
      exact ⟨a, s₁, .wait others passed first, second⟩

/-- A process that ends without a wait has no other complete run. -/
theorem of_done {p : Process Store α} {a b : α} {s₁ : Store} (h : p.RunsInLoop J s a s')
    (run : p.run s = (.done b, s₁)) : a = b ∧ s' = s₁ := by
  induction h with
  | done =>
    cases run
    exact ⟨rfl, rfl⟩
  | act _ ih => exact ih run
  | wait => cases run

/-- A run of a process that waits goes on where the process is resumed. -/
theorem of_waiting {p : Process Store α} {a : α} {w : Wait} {k : Option Fault → Process Store α}
    {s₁ : Store} (h : p.RunsInLoop J s a s') (run : p.run s = (.waiting w k, s₁)) :
    ∃ thrown s₂, J s₁ s₂ ∧ w.Over thrown s₂ ∧ (k thrown).RunsInLoop J s₂ a s' := by
  induction h with
  | done => cases run
  | act _ ih => exact ih run
  | wait others passed rest =>
    cases run
    exact ⟨_, _, others, passed, rest⟩

/-- A process that does not wait runs in a loop as it does by itself. -/
theorem of_run {p : Process Store α} {a : α} (h : p.run s = (.done a, s')) :
    p.RunsInLoop J s a s' := by
  induction p generalizing s with
  | done b =>
    cases h
    exact .done
  | stuck | wait => cases h
  | act x k ih => exact .act (ih _ h)

end RunsInLoop

end Process

namespace Run

variable {J : Store → Store → Prop} {α β : Type} {s s' : Store}

/-- Complete runs of running code in an event loop. -/
def RunsInLoop (J : Store → Store → Prop) (x : Run α) (s : Store) (r : Except Fault α) (s' : Store) :
    Prop :=
  Process.RunsInLoop J x.run s r s'

namespace RunsInLoop

/-- What goes on from a result has come to the result first; a fault is the end of it. -/
theorem of_bind {x : Run α} {f : α → Run β} {r : Except Fault β}
    (h : (x >>= f).RunsInLoop J s r s') :
    (∃ a s₁, x.RunsInLoop J s (.ok a) s₁ ∧ (f a).RunsInLoop J s₁ r s') ∨
      ∃ fault, r = .error fault ∧ x.RunsInLoop J s (.error fault) s' := by
  obtain ⟨first, s₁, begins, rest⟩ := Process.RunsInLoop.of_bind h
  cases first with
  | ok a => exact .inl ⟨a, s₁, begins, rest⟩
  | error fault =>
    cases rest
    exact .inr ⟨fault, rfl, begins⟩

theorem of_act {a : Act α} {r : Except Fault α} (h : (act a).RunsInLoop J s r s') :
    r = (a.run s).1 ∧ s' = (a.run s).2 :=
  Process.RunsInLoop.of_done h (upTo_act a s)

theorem of_pure {a : α} {r : Except Fault α} (h : (pure a : Run α).RunsInLoop J s r s') :
    r = .ok a ∧ s' = s :=
  Process.RunsInLoop.of_done h rfl

theorem of_throw {fault : Fault} {r : Except Fault α}
    (h : (throw fault : Run α).RunsInLoop J s r s') : r = .error fault ∧ s' = s :=
  Process.RunsInLoop.of_done h rfl

theorem of_ofExcept {r r' : Except Fault α} (h : (ofExcept r').RunsInLoop J s r s') :
    r = r' ∧ s' = s :=
  Process.RunsInLoop.of_done h rfl

/-- An attempt goes on with whatever comes of it. -/
theorem of_attempt {x : Run α} {f : Except Fault α → Run β} {r : Except Fault β}
    (h : (attempt x >>= f).RunsInLoop J s r s') :
    ∃ a s₁, x.RunsInLoop J s a s₁ ∧ (f a).RunsInLoop J s₁ r s' := by
  have attempted {a : Except Fault (Except Fault α)} {s₁ : Store}
      (h : (attempt x).RunsInLoop J s a s₁) : ∃ b, a = .ok b ∧ x.RunsInLoop J s b s₁ := by
    unfold attempt RunsInLoop at h
    rw [ExceptT.run_mk, map_eq_pure_bind] at h
    obtain ⟨b, s₂, run, rest⟩ := Process.RunsInLoop.of_bind h
    cases rest
    exact ⟨b, rfl, run⟩
  rcases of_bind h with ⟨a, s₁, first, rest⟩ | ⟨fault, rfl, first⟩
  · obtain ⟨b, same, run⟩ := attempted first
    cases same
    exact ⟨a, s₁, run, rest⟩
  · obtain ⟨b, same, run⟩ := attempted first
    cases same

end RunsInLoop

end Run

end StreamTemplate
