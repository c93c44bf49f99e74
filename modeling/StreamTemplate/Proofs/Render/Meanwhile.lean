import StreamTemplate.Proofs.Render.Discreet
import StreamTemplate.Proofs.Stream.Course

/-!
# What happens while a render waits

Between two turns of the task that a body runs in, the event loop resumes other tasks, tells streams
of finished work and starts further renders. All of them leave the render context of the body alone.
-/

namespace StreamTemplate

namespace EventLoop

/-- Every render context belongs to one task at most, and a task that waits minds which are its own. -/
structure Owned (l : EventLoop) (owns : Nat → Nat → Prop) : Prop where
  minds : ∀ t k, (t, k) ∈ l.waiting → ∀ thrown s, (k thrown).Minds (owns t) (fun _ => True) s
  there : ∀ t i, owns t i → i < l.store.contexts.size
  apart : ∀ t t' i, owns t i → owns t' i → t = t'

/-- From one loop to another the tasks `resumed` have run, one at most: those render contexts that have
been made are theirs, and of the others none but theirs have changed. -/
structure Turned (resumed : Nat → Prop) (owns : Nat → Nat → Prop) (l l' : EventLoop) : Prop where
  owned : l'.Owned fun t i => owns t i ∨ resumed t ∧ l.store.Made l'.store i
  changes : l.store.ChangesOnly (fun i => ∃ t, resumed t ∧ owns t i) l'.store

section

variable {owns : Nat → Nat → Prop} {resumed : Nat → Prop} {l l₁ l' : EventLoop} {r : Ready}
  {s : Store}

theorem Owned.turned (h : l.Owned owns) (one : ∀ t t', resumed t → resumed t' → t = t')
    (changes : l.store.ChangesOnly (fun i => ∃ t, resumed t ∧ owns t i) l'.store)
    (waiting : ∀ t k, (t, k) ∈ l'.waiting → (t, k) ∈ l.waiting ∨ resumed t ∧ ∀ thrown s,
      (k thrown).Minds (fun i => owns t i ∨ l.store.Made l'.store i) (fun _ => True) s) :
    Turned resumed owns l l' := by
  refine ⟨⟨?_, ?_, ?_⟩, changes⟩
  · intro t k waits thrown s
    rcases waiting t k waits with before | ⟨resumed, minds⟩
    · exact (h.minds t k before thrown s).mono (fun _ => .inl) fun _ => id
    · exact (minds thrown s).mono (fun _ => Or.imp_right (⟨resumed, ·⟩)) fun _ => id
  · rintro t i (mine | ⟨-, made⟩)
    · exact Nat.lt_of_lt_of_le (h.there t i mine) changes.size
    · exact made.2
  · have old (t i : Nat) (mine : owns t i) (made : l.store.Made l'.store i) : False :=
      Nat.not_le.mpr (h.there t i mine) made.1
    rintro t t' i (mine | ⟨first, made⟩) (mine' | ⟨second, made'⟩)
    · exact h.apart t t' i mine mine'
    · exact (old t i mine made').elim
    · exact (old t' i mine' made).elim
    · exact one t t' first second

/-- Nothing that waits is resumed, and no render context that is there changes. -/
theorem Owned.turned_store (h : l.Owned owns) (one : ∀ t t', resumed t → resumed t' → t = t')
    (changes : l.store.ChangesOnly (fun _ => False) s) :
    Turned resumed owns l { l with store := s } :=
  h.turned one (changes.mono fun _ => False.elim) fun _ _ => .inl

theorem Owned.turned_concludeTask (h : l.Owned owns) {t : Nat} {task : TaskState}
    {p : Process Store (Except Fault Value)} (entered : s.contexts = l.store.contexts)
    (hp : p.Minds (owns t) (fun _ => True) s) :
    Turned (t = ·) owns l (l.concludeTask t task (p.run s)) := by
  obtain ⟨ran, goesOn⟩ := hp.run
  generalize p.run s = stopped at *
  obtain ⟨halted, s₁⟩ := stopped
  obtain ⟨last, discreet, store⟩ := store_concludeTask l t task halted s₁
  have contexts : (l.concludeTask t task (halted, s₁)).store.contexts = s₁.contexts := by
    rw [store]
    exact (discreet Conduct.discreet).act.same _
  refine h.turned (fun _ _ first second => first.symm.trans second) ⟨?_, fun i there foreign => ?_⟩
    fun t' k waits => ?_
  · rw [contexts, ← entered]
    exact ran.size
  · rw [contexts, ← entered]
    exact ran.same i (entered ▸ there) fun mine => foreign ⟨t, rfl, mine⟩
  · rcases mem_concludeTask waits with ⟨before, -⟩ | ⟨rfl, w, rfl⟩
    · exact .inl before
    · refine .inr ⟨rfl, fun thrown s' => ?_⟩
      refine (goesOn w k rfl thrown s').mono (fun i => Or.imp_right ?_) fun _ => id
      unfold Store.Made
      rw [contexts, ← entered]
      exact id

theorem Owned.turned_stepTask (h : l.Owned owns) (t : Nat) (thrown : Option Fault) :
    Turned (t = ·) owns l (l.stepTask t thrown) := by
  have one (t₁ t₂ : Nat) (first : t = t₁) (second : t = t₂) : t₁ = t₂ := first.symm.trans second
  rcases Pull.stepTask_cases l t thrown with same | ⟨τ, -, same⟩
  · rw [same]
    exact h.turned_store one (.of_eq rfl)
  · rw [same]
    refine h.turned_concludeTask rfl ?_
    rcases Pull.process_cases l t τ (thrownInto τ thrown) with ⟨k, waits, goesOn⟩ | begins
    · rw [goesOn]
      exact h.minds t k waits _ _
    · rw [begins]
      exact (obeys_taskMain (obeys_engine (C := Conduct.discreet) 200) _ _).run.conducts.minds _ _

/-- Code that is run aside and belongs to no task. -/
theorem Owned.turned_runAside {α : Type} {x : Run α} (h : l.Owned owns) (hx : Discreet x) :
    Turned (fun _ => False) owns l (l.runAside x).2 := by
  obtain ⟨changes, -⟩ := (hx.run.minds (fun _ => False) l.store).run
  have turned : Turned (fun _ => False) owns l { l with store := _ } :=
    h.turned_store (fun _ _ => False.elim) changes
  unfold runAside
  dsimp only
  split <;> exact turned

/-- Which render context is current does not matter. -/
theorem Owned.turned_inContext (h : l.Owned owns) (context : Option Nat) {run : EventLoop → EventLoop}
    (ran : ∀ l : EventLoop, l.Owned owns → Turned resumed owns l (run l)) :
    Turned resumed owns l (l.inContext context run) := by
  have within : { l with store := { l.store with context } }.Owned owns := ⟨h.minds, h.there, h.apart⟩
  obtain ⟨owned, changes⟩ := ran _ within
  exact ⟨⟨owned.minds, owned.there, owned.apart⟩, ⟨changes.size, changes.same⟩⟩

/-- A turn of the loop. -/
theorem Owned.turned_dispatch (h : l.Owned owns) (r : Ready) :
    Turned r.Resumes owns l (l.dispatch r) := by
  cases r with
  | step t thrown => exact h.turned_stepTask t thrown
  | wake t future => exact h.turned_stepTask t _
  | notice stream future =>
    have told : Obeys Conduct.discreet (Store.onStream stream (ChunkStream.noticed · future)) :=
      Store.obeys_onStream stream (ChunkStream.obeys_noticed (Store.obeys_surroundings stream) future)
    exact h.turned_store (fun _ _ => False.elim) (.of_eq (told.run.act.same l.store))
  | render context r =>
    exact h.turned_inContext context fun _ within =>
      within.turned_runAside (r.obeys_run (obeys_engine (C := Conduct.discreet) 200)).run.conducts
  | spawn context coroutine =>
    have spawned : Obeys Conduct.discreet (spawnBody coroutine) := obeys_spawnBody coroutine
    exact h.turned_inContext context fun l' within =>
      within.turned_store (fun _ _ => False.elim) (.of_eq (spawned.act.same l'.store))

/-- What may happen while a task waits: the loop turns without resuming it, and discreet code is run
from outside. -/
inductive Passes (task : Nat) (l : EventLoop) : EventLoop → Prop
  | here : Passes task l l
  | turn {l₁ : EventLoop} {r : Ready} {s : Store} (before : Passes task l l₁)
      (next : l₁.store.dequeue = some (r, s)) (other : ¬ r.Resumes task) :
      Passes task l (dispatch r { l₁ with store := s })
  | outside {α : Type} {l₁ : EventLoop} {x : Run α} (before : Passes task l l₁)
      (discreet : Discreet x) : Passes task l (l₁.runAside x).2

/-- However long a task waits, its render contexts stay as it has left them and remain its own. -/
theorem Passes.keeps {task : Nat} (h : Passes task l l') (owned : l.Owned owns) :
    ∃ owns', l'.Owned owns' ∧ (∀ t i, owns t i → owns' t i) ∧
      ∀ i, owns task i → l.store.LeavesContext i l'.store := by
  have foreign {owns' : Nat → Nat → Prop} {l₁ : EventLoop} {resumed : Nat → Prop}
      (owned : l₁.Owned owns') (other : ¬ resumed task) {i : Nat} (mine : owns' task i) :
      ¬ ∃ t, resumed t ∧ owns' t i := by
    rintro ⟨t, ran, its⟩
    exact other (owned.apart t task i its mine ▸ ran)
  induction h with
  | here => exact ⟨owns, owned, fun _ _ => id, fun i _ => .refl _⟩
  | @turn l₁ r s before next other ih =>
    obtain ⟨owns', owned', sub, leaves⟩ := ih
    have popped : { l₁ with store := s }.Owned owns' := by
      obtain ⟨ready, rfl, -⟩ := Store.dequeue_eq next
      exact ⟨owned'.minds, owned'.there, owned'.apart⟩
    have same : s.contexts = l₁.store.contexts := by
      obtain ⟨ready, rfl, -⟩ := Store.dequeue_eq next
      rfl
    have turned := popped.turned_dispatch r
    refine ⟨_, turned.owned, fun t i mine => .inl (sub t i mine), fun i mine => ?_⟩
    refine (leaves i mine).trans fun c there => turned.changes.leaves ?_ c (same ▸ there)
    exact foreign popped other (sub task i mine)
  | outside before discreet ih =>
    obtain ⟨owns', owned', sub, leaves⟩ := ih
    have turned := owned'.turned_runAside discreet
    refine ⟨_, turned.owned, fun t i mine => .inl (sub t i mine), fun i mine => ?_⟩
    exact (leaves i mine).trans (turned.changes.leaves (foreign owned' id (sub task i mine)))

end

end EventLoop

end StreamTemplate
