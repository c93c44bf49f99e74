import StreamTemplate.Proofs.Loop.Discreet
import StreamTemplate.Proofs.Render.Nested

/-!
# Rendering code and render contexts

The code in a tag leaves render contexts alone, and it does not change which instruction is being
executed. Only entering an instruction does.
-/

namespace StreamTemplate

/-- Rendering code is discreet if, besides, it stays at its instruction. -/
instance : Discretion (StateT RenderState (Process Store)) where
  holds x := ∀ ρ own s, (x.run ρ).Minds own (fun r => r.2.tag = ρ.tag ∧ r.2.site = ρ.site) s
  pure _ _ _ _ := ⟨rfl, rfl⟩
  bind hx hf ρ own s := by
    refine (hx ρ own s).bind fun r own' s' stays _ => ?_
    refine (hf r.1 r.2 own' s').mono (fun _ => id) fun r' later => ?_
    exact ⟨later.1.trans stays.1, later.2.trans stays.2⟩

/-- Whatever a machine does, apart from entering an instruction, is discreet. -/
structure Machine.Discreet {κ γ : Type} (h : Machine κ γ Rendering) : Prop where
  evaluate : ∀ c, StreamTemplate.Discreet (h.evaluate c)
  execute : ∀ c, StreamTemplate.Discreet (h.execute c)
  assign : ∀ c, StreamTemplate.Discreet (h.assign c)
  truth : ∀ v, StreamTemplate.Discreet (h.truth v)
  cursor : ∀ isAsync v, StreamTemplate.Discreet (h.cursor isAsync v)
  advance : ∀ c, StreamTemplate.Discreet (h.advance c)
  setItem : ∀ v, StreamTemplate.Discreet (h.setItem v)
  dropItem : StreamTemplate.Discreet h.dropItem
  literal : ∀ text, StreamTemplate.Discreet (h.literal text)
  output : ∀ escaped v, StreamTemplate.Discreet (h.output escaped v)
  stuck : ∀ {α : Type}, StreamTemplate.Discreet (h.stuck : Rendering α)

theorem Obeys.discreet {α : Type} {x : Rendering α} (hx : Obeys Conduct.discreet x) : Discreet x :=
  fun ρ own s => ((hx ρ).1 own s).ends (hx ρ).2

theorem Obeys.discreet_run {α : Type} {x : ExceptT Fault Rendering α}
    (hx : Obeys Conduct.discreet x) : Discreet x :=
  Obeys.discreet (x := x.run) hx

theorem Machine.Obeys.discreet {κ γ : Type} {h : Machine κ γ Rendering}
    (hh : h.Obeys Conduct.discreet) : h.Discreet where
  evaluate c := (hh.evaluate c).discreet_run
  execute c := (hh.execute c).discreet_run
  assign c := (hh.assign c).discreet_run
  truth v := (hh.truth v).discreet
  cursor isAsync v := (hh.cursor isAsync v).discreet_run
  advance c := (hh.advance c).discreet_run
  setItem v := (hh.setItem v).discreet
  dropItem := hh.dropItem.discreet
  literal text := (hh.literal text).discreet_run
  output escaped v := (hh.output escaped v).discreet_run
  stuck := hh.stuck.discreet

end StreamTemplate
