import StreamTemplate.Proofs.Loop.Process

/-!
# Processes among others

While a process waits others act on what they share. `RunsAmid` are its runs when the others keep to a
rule. The rule here is that everyone minds whose render contexts are whose: code is discreet if it
changes none but those that it makes itself. `Discreet` says so in each of the monads that code is
written in.
-/

namespace StreamTemplate

universe u

namespace Process

variable {σ α β : Type} {J : σ → σ → Prop} {s s₁ s' : σ}

/-- Complete runs of a process among others: whenever it waits, the state may become what `J` allows,
and a fault may be thrown into the process. -/
inductive RunsAmid (J : σ → σ → Prop) : Process σ α → σ → α → σ → Prop
  | done {a s} : RunsAmid J (done a) s a s
  | act {γ : Type} {x : StateM σ γ} {k s a s'}
      (rest : RunsAmid J (k (x.run s).1) (x.run s).2 a s') : RunsAmid J (act x k) s a s'
  | wait {w k thrown s s₁ a s'} (others : J s s₁) (rest : RunsAmid J (k thrown) s₁ a s') :
      RunsAmid J (wait w k) s a s'

namespace RunsAmid

theorem bind {p : Process σ α} {f : α → Process σ β} {a : α} {b : β} (first : p.RunsAmid J s a s₁)
    (second : (f a).RunsAmid J s₁ b s') : (p >>= f).RunsAmid J s b s' := by
  induction first with
  | done => exact second
  | act _ ih => exact .act (ih second)
  | wait others _ ih => exact .wait others (ih second)

theorem of_bind {p : Process σ α} {f : α → Process σ β} {b : β}
    (h : (p >>= f).RunsAmid J s b s') :
    ∃ a s₁, p.RunsAmid J s a s₁ ∧ (f a).RunsAmid J s₁ b s' := by
  induction p generalizing s with
  | done a => exact ⟨a, s, .done, h⟩
  | stuck => cases h
  | act x k ih =>
    cases h with
    | act rest =>
      obtain ⟨a, s₁, first, second⟩ := ih _ rest
      exact ⟨a, s₁, .act first, second⟩
  | wait w k ih =>
    cases h with
    | wait others rest =>
      obtain ⟨a, s₁, first, second⟩ := ih _ rest
      exact ⟨a, s₁, .wait others first, second⟩

/-- A process that does not wait runs among any others as it does by itself. -/
theorem of_run {p : Process σ α} {a : α} (h : p.run s = (.done a, s')) : p.RunsAmid J s a s' := by
  induction p generalizing s with
  | done b =>
    cases h
    exact .done
  | stuck => cases h
  | act x k ih => exact .act (ih _ h)
  | wait w k ih => cases h

end RunsAmid

/-- How far a process has gone among others: going on from a state it has come to another process and
another state. -/
inductive GoesAmid (J : σ → σ → Prop) : Process σ α → σ → Process σ α → σ → Prop
  | here {p s} : GoesAmid J p s p s
  | act {γ : Type} {x : StateM σ γ} {k s q s'}
      (rest : GoesAmid J (k (x.run s).1) (x.run s).2 q s') : GoesAmid J (act x k) s q s'
  | wait {w k thrown s s₁ q s'} (others : J s s₁) (rest : GoesAmid J (k thrown) s₁ q s') :
      GoesAmid J (wait w k) s q s'

namespace GoesAmid

theorem trans {p q r : Process σ α} (first : p.GoesAmid J s q s₁) (second : q.GoesAmid J s₁ r s') :
    p.GoesAmid J s r s' := by
  induction first with
  | here => exact second
  | act _ ih => exact .act (ih second)
  | wait others _ ih => exact .wait others (ih second)

/-- A process that is run comes to where it waits. -/
theorem of_waiting {p : Process σ α} {w : Wait} {k : Option Fault → Process σ α}
    (h : p.run s = (.waiting w k, s')) : p.GoesAmid J s (.wait w k) s' := by
  induction p generalizing s with
  | done | stuck => cases h
  | act x k ih => exact .act (ih _ h)
  | wait w k ih =>
    cases h
    exact .here

end GoesAmid

/-- A complete run is one that has come to the end. -/
theorem RunsAmid.goesAmid {p : Process σ α} {a : α} (h : p.RunsAmid J s a s') :
    p.GoesAmid J s (.done a) s' := by
  induction h with
  | done => exact .here
  | act _ ih => exact .act ih
  | wait others _ ih => exact .wait others ih

end Process

/-! ### Processes that mind whose render contexts are whose -/

/-- The render context `i`, if it is there, stays as it is. -/
def Store.LeavesContext (i : Nat) (s s' : Store) : Prop :=
  ∀ c, s.contexts[i]? = some c → s'.contexts[i]? = some c

/-- No render contexts change but `own`, and none goes away. -/
structure Store.ChangesOnly (own : Nat → Prop) (s s' : Store) : Prop where
  size : s.contexts.size ≤ s'.contexts.size
  same : ∀ i < s.contexts.size, ¬ own i → s'.contexts[i]? = s.contexts[i]?

/-- The render contexts that came into being between two stores. -/
def Store.Made (s s' : Store) (i : Nat) : Prop :=
  s.contexts.size ≤ i ∧ i < s'.contexts.size

section

variable {i : Nat} {own : Nat → Prop} {s s' s'' : Store}

namespace Store.LeavesContext

theorem refl (s : Store) : s.LeavesContext i s :=
  fun _ there => there

theorem trans (h : s.LeavesContext i s') (h' : s'.LeavesContext i s'') : s.LeavesContext i s'' :=
  fun c there => h' c (h c there)

end Store.LeavesContext

namespace Store.ChangesOnly

theorem of_eq (same : s'.contexts = s.contexts) : s.ChangesOnly own s' := by
  refine ⟨Nat.le_of_eq ?_, fun i _ _ => ?_⟩
  · rw [same]
  · rw [same]

/-- What happens to a render context that one has made oneself is one's own business. -/
theorem trans (h : s.ChangesOnly own s') (h' : s'.ChangesOnly (fun i => own i ∨ s.Made s' i) s'') :
    s.ChangesOnly own s'' where
  size := Nat.le_trans h.size h'.size
  same i there foreign := by
    have unmade : ¬ (own i ∨ s.Made s' i) := fun mine =>
      mine.elim foreign fun made => Nat.not_le.mpr there made.1
    rw [h'.same i (Nat.lt_of_lt_of_le there h.size) unmade, h.same i there foreign]

theorem mono {own' : Nat → Prop} (h : s.ChangesOnly own s') (sub : ∀ i, own i → own' i) :
    s.ChangesOnly own' s' :=
  ⟨h.size, fun i there foreign => h.same i there fun mine => foreign (sub i mine)⟩

theorem leaves (h : s.ChangesOnly own s') (foreign : ¬ own i) : s.LeavesContext i s' := by
  intro c there
  rw [h.same i (Array.getElem?_eq_some_iff.mp there).1 foreign, there]

end Store.ChangesOnly

namespace Process

variable {α β : Type} {P Q : α → Prop}

/-- Going on from a store, a process changes no render contexts but `own` and those that it makes
itself, whatever others do while it waits. Its result has a property. -/
def Minds (own : Nat → Prop) (P : α → Prop) : Process Store α → Store → Prop
  | done a, _ => P a
  | stuck, _ => True
  | act x k, s => s.ChangesOnly own (x.run s).2 ∧
    (k (x.run s).1).Minds (fun i => own i ∨ s.Made (x.run s).2 i) P (x.run s).2
  | wait _ k, _ => ∀ thrown s', (k thrown).Minds own P s'

namespace Minds

theorem bind {p : Process Store α} {f : α → Process Store β} {Q : β → Prop} (h : p.Minds own P s)
    (next : ∀ a own' s', P a → (∀ i, own i → own' i) → (f a).Minds own' Q s') :
    (p >>= f).Minds own Q s := by
  induction p generalizing own s with
  | done a => exact next a own s h fun _ => id
  | stuck => trivial
  | act x k ih =>
    exact ⟨h.1, ih _ h.2 fun a own' s' post sub => next a own' s' post fun i mine => sub i (.inl mine)⟩
  | wait w k ih => exact fun thrown s' => ih _ (h thrown s') next

theorem mono {own' : Nat → Prop} {p : Process Store α} (h : p.Minds own P s)
    (sub : ∀ i, own i → own' i) (post : ∀ a, P a → Q a) : p.Minds own' Q s := by
  induction p generalizing own own' s with
  | done a => exact post a h
  | stuck => trivial
  | act x k ih => exact ⟨h.1.mono sub, ih _ h.2 fun i => Or.imp_left (sub i)⟩
  | wait w k ih => exact fun thrown s' => ih _ (h thrown s') sub

theorem ends {p : Process Store α} (h : p.Minds own P s) (post : p.Ends Q) : p.Minds own Q s := by
  induction p generalizing own s with
  | done a => exact post
  | stuck => trivial
  | act x k ih => exact ⟨h.1, ih _ h.2 (post _)⟩
  | wait w k ih => exact fun thrown s' => ih _ (h thrown s') (post thrown)

/-- Following a process up to where it waits: it has minded, and does when it goes on. -/
theorem run {p : Process Store α} (h : p.Minds own P s) : s.ChangesOnly own (p.run s).2 ∧
    ∀ w k, (p.run s).1 = .waiting w k → ∀ thrown s',
      (k thrown).Minds (fun i => own i ∨ s.Made (p.run s).2 i) P s' := by
  induction p generalizing own s with
  | done a => exact ⟨.of_eq rfl, nofun⟩
  | stuck => exact ⟨.of_eq rfl, nofun⟩
  | act x k ih =>
    obtain ⟨changes, goesOn⟩ := ih _ h.2
    refine ⟨h.1.trans changes, fun w k' halted thrown s' => ?_⟩
    refine (goesOn w k' halted thrown s').mono (fun i mine => ?_) fun _ => id
    rcases mine with (mine | made) | made
    · exact .inl mine
    · exact .inr ⟨made.1, Nat.lt_of_lt_of_le made.2 changes.size⟩
    · exact .inr ⟨Nat.le_trans h.1.size made.1, made.2⟩
  | wait w k ih =>
    refine ⟨.of_eq rfl, ?_⟩
    rintro _ _ ⟨⟩ thrown s'
    exact (h thrown s').mono (fun i mine => .inl mine) fun _ => id

/-- Among others that leave a render context alone, a process does so, too, if the context is there
and not its own. -/
theorem of_runsAmid {p : Process Store α} {a : α} (h : p.Minds own P s) (there : i < s.contexts.size)
    (foreign : ¬ own i) (run : p.RunsAmid (Store.LeavesContext i) s a s') :
    s.LeavesContext i s' ∧ P a := by
  induction run generalizing own with
  | done => exact ⟨.refl _, h⟩
  | @act _ x k s _ _ _ ih =>
    have leaves := h.1.leaves foreign
    obtain ⟨later, post⟩ := ih h.2 (Nat.lt_of_lt_of_le there h.1.size) fun mine =>
      mine.elim foreign fun made => Nat.not_le.mpr there made.1
    exact ⟨leaves.trans later, post⟩
  | wait others _ ih =>
    have there' := (Array.getElem?_eq_some_iff.mp (others _ (Array.getElem?_eq_getElem there))).1
    obtain ⟨later, post⟩ := ih (h _ _) there' foreign
    exact ⟨others.trans later, post⟩

end Minds

end Process

end

/-! ### Discretion -/

/-- What it means in a monad that something is discreet. -/
class Discretion (m : Type → Type u) [Monad m] where
  holds : {α : Type} → m α → Prop
  pure : ∀ {α : Type} (a : α), holds (pure a : m α)
  bind : ∀ {α β : Type} {x : m α} {f : α → m β}, holds x → (∀ a, holds (f a)) → holds (x >>= f)

/-- Something changes no render contexts but those that it makes itself. -/
def Discreet {m : Type → Type u} [Monad m] [Discretion m] {α : Type} (x : m α) : Prop :=
  Discretion.holds x

section

variable {m : Type → Type u} [Monad m] [Discretion m] {α β : Type}

theorem discreet_pure (a : α) : Discreet (pure a : m α) :=
  Discretion.pure a

theorem Discreet.bind {x : m α} {f : α → m β} (hx : Discreet x) (hf : ∀ a, Discreet (f a)) :
    Discreet (x >>= f) :=
  Discretion.bind hx hf

theorem discreet_forM {f : α → m PUnit} (each : ∀ a, Discreet (f a)) (xs : List α) :
    Discreet (xs.forM f) := by
  induction xs with
  | nil => exact discreet_pure _
  | cons a xs ih => exact (each a).bind fun _ => ih

/-- What may fail is discreet if what it is made of is. -/
instance : Discretion (ExceptT Fault m) where
  holds x := Discreet x.run
  pure _ := discreet_pure _
  bind hx hf := Discreet.bind hx fun
    | .ok a => hf a
    | .error _ => discreet_pure _

theorem discreet_throw (f : Fault) : Discreet (throw f : ExceptT Fault m α) :=
  discreet_pure (m := m) _

theorem Discreet.run {x : ExceptT Fault m α} (hx : Discreet x) : Discreet x.run :=
  hx

end

/-! ### What does not wait -/

section

variable {α : Type}

instance : Discretion (StateM Store) where
  holds x := ∀ s : Store, (x.run s).2.contexts = s.contexts
  pure _ _ := rfl
  bind hx hf s := (hf _ _).trans (hx s)

theorem Discreet.same {x : StateM Store α} (hx : Discreet x) (s : Store) :
    (x.run s).2.contexts = s.contexts :=
  hx s

theorem discreet_of_same {x : StateM Store α} (same : ∀ s, (x.run s).2.contexts = s.contexts) :
    Discreet x :=
  same

theorem discreet_get : Discreet (get : StateM Store Store) :=
  discreet_of_same fun _ => rfl

theorem discreet_modify {f : Store → Store} (same : ∀ s, (f s).contexts = s.contexts) :
    Discreet (modify f : StateM Store Unit) :=
  discreet_of_same same

namespace Act

theorem discreet_get : Discreet (get : Act Store) :=
  discreet_of_same (x := (get : Act Store).run) fun _ => rfl

theorem discreet_modify {f : Store → Store} (same : ∀ s, (f s).contexts = s.contexts) :
    Discreet (modify f : Act Unit) :=
  discreet_of_same (x := (modify f : Act Unit).run) same

end Act

/-! ### What may wait -/

instance : Discretion (Process Store) where
  holds p := ∀ own s, p.Minds own (fun _ => True) s
  pure _ _ _ := trivial
  bind hx hf own s := (hx own s).bind fun a own' s' _ _ => hf a own' s'

theorem Discreet.minds {p : Process Store α} (hp : Discreet p) (own : Nat → Prop) (s : Store) :
    p.Minds own (fun _ => True) s :=
  hp own s

theorem discreet_ofState {x : StateM Store α} (hx : Discreet x) : Discreet (Process.ofState x) :=
  fun _ s => ⟨.of_eq (hx.same s), trivial⟩

namespace Run

theorem discreet_act {a : Act α} (ha : Discreet a) : Discreet (act a) :=
  discreet_ofState ha.run

theorem discreet_get : Discreet (act get) :=
  discreet_act Act.discreet_get

theorem discreet_wait (w : Wait) : Discreet (wait w) := by
  intro _ _ thrown _
  cases thrown <;> trivial

theorem discreet_stuck : Discreet (stuck : Run α) :=
  fun _ _ => trivial

end Run

end

end StreamTemplate
