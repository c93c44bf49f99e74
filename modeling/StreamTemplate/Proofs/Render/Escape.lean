import StreamTemplate.Proofs.Loop.Faithful
import StreamTemplate.Proofs.Loop.Moment
import StreamTemplate.Proofs.Text.Entity

/-!
# What converted output delivers

The value of an output tag is written as what the conversion of the tag makes of it, as a coroutine that
converts what it awaits, or as a generator that converts the items of an iterable. Whatever such a
coroutine comes to is something that the conversion has made, and so is every item that is asked of such a
generator. This is shown of what their code ends in first, and then of the tasks that run it, at every
moment that can come of an event loop in which nothing has been begun. What has been made for
escaped output is an escaped text.
-/

namespace StreamTemplate

/-- A text that the escape function has made of a value. -/
def Value.Escaped (v : Value) : Prop :=
  ∃ (heap : Heap) (u : Value) (text : String), heap.htmlText u = .ok text ∧ v = .text text

/-- The conversion has made this of some value. -/
def Conversion.Makes (conversion : Conversion) (v : Value) : Prop :=
  ∃ (heap : Heap) (u : Value), conversion.apply heap u = .ok v

theorem escaped_of_apply {heap : Heap} {v w : Value}
    (h : (Conversion.escaped .html).apply heap v = .ok w) : w.Escaped := by
  change Except.map _ (heap.htmlText v) = _ at h
  cases made : heap.htmlText v with
  | error => rw [made] at h; cases h
  | ok text =>
    rw [made] at h
    cases h
    exact ⟨heap, v, text, made, rfl⟩

/-- What the escape function makes is safe. -/
theorem safe_of_htmlText {heap : Heap} {v : Value} {text : String} (made : heap.htmlText v = .ok text) :
    Text.Safe text := by
  unfold Heap.htmlText at made
  split at made
  · cases made
    exact Text.safe_escapeHtml ""
  · change Except.map _ (heap.text v) = _ at made
    cases shown : heap.text v with
    | error => rw [shown] at made; cases made
    | ok raw =>
      rw [shown] at made
      cases made
      exact Text.safe_escapeHtml raw

/-- What escaped output makes is an escaped text. -/
theorem Conversion.Makes.escaped {v : Value} (h : (Conversion.escaped .html).Makes v) : v.Escaped := by
  obtain ⟨heap, u, made⟩ := h
  exact escaped_of_apply made

/-- What a coroutine with this body may come to, when the generators `D` convert as they are to. -/
def Body.Delivers (D : Converter → Prop) : Body → Value → Prop
  | .convert _ conversion, v => conversion.Makes v
  | .nextItem (.process .asyncGenerator i), v => ∀ conversion, D ⟨i, conversion⟩ →
    ∀ tuple item, v = .tuple tuple [.bool false, item] → conversion.Makes item
  | _, _ => True

/-! ### What code ends in -/

section

variable {D : Converter → Prop} {met : Prop} {s : Store} {e : Engine}

namespace Run

variable {α β : Type} {P : Except Fault β → Prop} {Q : Except Fault α → Prop}

theorem faithful_bind {x : Run α} {f : α → Run β} (hx : x.run.Faithful D Q met s)
    (now : met → s.Met D) (faults : ∀ fault, P (.error fault))
    (next : ∀ a (met' : Prop) s', (met' → s'.Met D) → (met' → Q (.ok a)) →
      (f a).run.Faithful D P met' s') :
    (x >>= f).run.Faithful D P met s := by
  rw [ExceptT.run_bind]
  refine hx.bind now fun r met' s' _ now' holds => ?_
  cases r with
  | ok a => exact next a met' s' now' holds
  | error fault => exact fun _ => faults fault

theorem faithful_view (f : Heap → Except Fault α) :
    (Run.act (Act.view f)).run.Faithful D (fun r => ∃ heap, r = f heap) met s :=
  .act (.of_same rfl rfl rfl) fun _ => ⟨s.heap, rfl⟩

end Run

theorem Obeys.faithful {α : Type} {x : Run α} (hx : Obeys (Conduct.faithful D) x)
    (now : met → s.Met D) : x.run.Faithful D (fun _ => True) met s :=
  hx met s now

/-- Code delivers what bodies are to deliver, and the generators `D` yield what has been converted. -/
structure Engine.Delivers (D : Converter → Prop) (e : Engine) : Prop where
  body : ∀ b (met : Prop) s, (met → s.Met D) →
    (e.body b).run.Faithful D (fun r => ∀ v, r = .ok v → b.Delivers D v) met s
  next : ∀ i (met : Prop) s, (met → s.Met D) → (e.next (.process .asyncGenerator i)).run.Faithful D
    (fun r => ∀ conversion, D ⟨i, conversion⟩ → ∀ v, r = .ok v → conversion.Makes v) met s

theorem delivers_runGenerator (he : e.Obeys (Conduct.faithful D)) (body : GeneratorBody)
    (now : met → s.Met D) : (runGenerator e body).run.Faithful D
      (fun r => ∀ conversion, body.Converts conversion →
        ∀ v body', r = .ok (some (v, body')) → conversion.Makes v) met s := by
  have faults {body : GeneratorBody} (fault : Fault) (conversion : Conversion) :
      body.Converts conversion → ∀ v body',
        (Except.error fault : Except Fault (Option (Value × GeneratorBody))) =
          .ok (some (v, body')) → conversion.Makes v :=
    fun _ _ _ same => nomatch same
  cases body with
  | finished => exact fun _ _ _ v body' same => nomatch same
  | script steps =>
    exact ((obeys_runGenerator he _).faithful now).mono id fun _ _ _ converts => converts.elim
  | convert iterable iterator own =>
    unfold runGenerator
    dsimp -zeta only
    extract_lets goes
    have goes (it : Value) (met : Prop) (s : Store) (now : met → s.Met D) :
        (goes it).run.Faithful D (fun r => ∀ conversion,
          (GeneratorBody.convert iterable iterator own).Converts conversion →
            ∀ v body', r = .ok (some (v, body')) → conversion.Makes v) met s := by
      refine Run.faithful_bind ((obeys_nextOrEnd he it).faithful now) now faults
        fun next met' s' now' _ => ?_
      cases next with
      | none => exact fun _ _ _ v body' same => nomatch same
      | some item =>
        refine Run.faithful_bind (Run.faithful_view (own.apply · item)) now' faults
          fun v met'' s'' _ made ok conversion converts v' body' same => ?_
        obtain ⟨heap, made⟩ := made ok
        cases same
        cases converts
        exact ⟨heap, item, made.symm⟩
    cases iterator with
    | some iterator => exact goes iterator _ _ now
    | none =>
      exact Run.faithful_bind ((obeys_asyncIterator iterable).faithful now) now faults
        fun it met' s' now' _ => goes it _ _ now'

/-- An iterator is asked for its next item, and the answer is a pair. -/
theorem delivers_itemOrEnd (he : e.Delivers D) (i : Nat) (now : met → s.Met D) :
    (itemOrEnd e (.process .asyncGenerator i)).run.Faithful D
      (fun r => ∀ v, r = .ok v → (Body.nextItem (.process .asyncGenerator i)).Delivers D v) met s := by
  have faults {P : Value → Prop} (fault : Fault) : ∀ v, (Except.error fault : Except Fault Value) = .ok v → P v :=
    fun _ same => nomatch same
  have next : (nextOrEnd e (.process .asyncGenerator i)).run.Faithful D
      (fun r => ∀ conversion, D ⟨i, conversion⟩ → ∀ v, r = .ok (some v) → conversion.Makes v) met s := by
    refine Run.faithful_attempt (he.next i met s now) now fun r met' s' _ _ made => ?_
    cases r with
    | ok v =>
      rintro ok conversion known _ ⟨⟩
      exact made ok conversion known v rfl
    | error fault =>
      dsimp only
      split
      · exact fun _ _ _ v same => nomatch same
      · exact fun _ _ _ v same => nomatch same
  refine Run.faithful_bind next now faults fun next met' s' _ made => ?_
  cases next with
  | some v =>
    rintro ok _ ⟨⟩ conversion known tuple item ⟨⟩
    exact made ok conversion known v rfl
  | none => rintro ok _ ⟨⟩ conversion known tuple item ⟨⟩

theorem delivers_body (he : e.Delivers D) (obeys : e.Obeys (Conduct.faithful D)) (b : Body)
    (now : met → s.Met D) :
    (b.run e).run.Faithful D (fun r => ∀ v, r = .ok v → b.Delivers D v) met s := by
  have usual := (b.obeys_run obeys).faithful now
  cases b with
  | convert awaitable conversion =>
    refine Run.faithful_bind ((obeys_awaitValue obeys awaitable).faithful now) now
      (fun _ _ same => nomatch same) fun v met' s' _ _ => ?_
    refine (Run.faithful_view (conversion.apply · v)).mono id fun r made w same => ?_
    obtain ⟨heap, made⟩ := made
    rw [same] at made
    exact ⟨heap, v, made.symm⟩
  | nextItem iterator =>
    cases iterator with
    | process kind i =>
      cases kind with
      | asyncGenerator => exact delivers_itemOrEnd he i now
      | _ => exact usual.mono id fun _ _ _ _ => trivial
    | _ => exact usual.mono id fun _ _ _ _ => trivial
  | _ => exact usual.mono id fun _ _ _ _ => trivial

/-- Code that is nested to any depth delivers what it is to deliver. -/
theorem delivers_engine (depth : Nat) : (engine depth).Delivers D := by
  induction depth with
  | zero => exact ⟨fun _ _ _ _ => trivial, fun _ _ _ _ => trivial⟩
  | succ depth ih =>
    have obeys : (engine depth).Obeys (Conduct.faithful D) := obeys_engine depth
    refine ⟨fun b _ _ now => delivers_body ih obeys b now, fun i _ _ _ => ?_⟩
    exact faithful_nextYielded (fun body _ _ now => delivers_runGenerator obeys body now) i

end

end StreamTemplate
