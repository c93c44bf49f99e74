import StreamTemplate.Proofs.Render.Outcome
import StreamTemplate.Proofs.Render.Promised

/-!
# What a consumer receives of an escaped-output tag

An escaped-output tag pushes one chunk: an escaped text, a new coroutine that escapes what it awaits, or a
new generator that escapes the items of an iterable. The stream takes it for one source, and whatever pulls
return of that source, at any time from then on, is a text that the escape function has made.
-/

namespace StreamTemplate

/-- What an escaped-output tag does with its value. -/
def Render.writeEscaped (r : Render) (v : Value) : Act Unit := do
  pushChunk r.stream (← escapedChunk r.template.options.escape v)

/-- The chunk that an escaped-output tag makes of its value, unless that fails. -/
def Render.escapedMembers (r : Render) (v : Value) (s : Store) : List Value :=
  ((escapedChunk r.template.options.escape v).run.run s).1.toOption.toList

/-! ### The chunk -/

section

variable {s s' : Store} {v chunk : Value}

/-- The chunks that an escaped-output tag makes in a store, and the store then. -/
inductive EscapedChunk (s : Store) : Value → Store → Prop
  | text {heap : Heap} {u : Value} {text : String} (made : heap.htmlText u = .ok text) :
      EscapedChunk s (.text text) s
  | result (v : Value) : EscapedChunk s (.process .coroutine s.coroutines.size)
      ((Store.newCoroutine (.convert v (.escaped .html))).run s).2
  | items (v : Value) : EscapedChunk s (.process .asyncGenerator s.generators.size)
      ((Store.newGenerator (.convert v none (.escaped .html))).run s).2

theorem run_escapedChunk (v : Value) (s : Store) :
    (escapedChunk .html v).run.run s = match (Conversion.escaped .html).write s.heap v with
      | .error fault => (.error fault, s)
      | .ok w => (.ok (w.realize.run s).1, (w.realize.run s).2) := by
  have viewed : (Act.view (escapedOutput .html · v)).run.run s = (escapedOutput .html s.heap v, s) := rfl
  unfold escapedChunk
  rw [Act.run_bind, viewed, escapedOutput]
  cases (Conversion.escaped .html).write s.heap v with
  | error => rfl
  | ok w => rfl

/-- Whatever the value, the chunk is made by the escape function, now or later. -/
theorem escapedChunk_html (v : Value) (s : Store) :
    (∃ fault, (escapedChunk .html v).run.run s = (.error fault, s)) ∨
      ∃ chunk s', (escapedChunk .html v).run.run s = (.ok chunk, s') ∧ EscapedChunk s chunk s' := by
  have plain : (v.isLiteral && Conversion.escaped .html == .raw) = false := by simp
  rw [run_escapedChunk, Conversion.write, plain, if_neg Bool.false_ne_true]
  split_ifs
  · exact .inr ⟨_, _, rfl, .items v⟩
  · exact .inr ⟨_, _, rfl, .result v⟩
  · cases made : (Conversion.escaped .html).apply s.heap v with
    | error fault => exact .inl ⟨fault, rfl⟩
    | ok w =>
      obtain ⟨heap, u, text, escaped, rfl⟩ := escaped_of_apply made
      exact .inr ⟨_, _, rfl, .text escaped⟩

theorem EscapedChunk.members (h : EscapedChunk s chunk s') (heap : Heap) :
    heap.chunkMembers chunk = [chunk] := by
  cases h <;> rfl

theorem EscapedChunk.classified (h : EscapedChunk s chunk s') :
    ∃ source, classify chunk = .ok (some source) ∧ flatten [chunk] = .ok [source] := by
  cases h <;> exact ⟨_, rfl, rfl⟩

/-- A coroutine among the chunks is new. -/
theorem EscapedChunk.fresh (h : EscapedChunk s chunk s') {c : Nat}
    (coroutine : .process .coroutine c ∈ [chunk]) :
    c = s.coroutines.size ∧ c < s'.coroutines.size := by
  cases h with
  | result v =>
    cases List.mem_singleton.mp coroutine
    exact ⟨rfl, Nat.lt_of_lt_of_eq (Nat.lt_succ_self _) (Array.size_push ..).symm⟩
  | text | items => cases List.mem_singleton.mp coroutine

/-- Making a chunk is no business of any stream. -/
theorem EscapedChunk.outside {l : EventLoop} (h : EscapedChunk l.store chunk s') (id : Nat) (g : Ledger)
    (waiting : ∀ p ∈ l.waiting, p.1 < l.store.futures.size) :
    Outside id g l { l with store := s' } := by
  cases h with
  | text => exact ⟨rfl, .of_same rfl rfl rfl, fun _ _ => rfl, waiting⟩
  | result v => exact ⟨rfl, Store.spares_newCoroutine _ _, fun _ _ => rfl, waiting⟩
  | items v => exact ⟨rfl, .of_same rfl rfl rfl, fun _ _ => rfl, waiting⟩

/-! ### What is promised with it -/

/-- A generator among the chunks is new. -/
theorem EscapedChunk.absent (h : EscapedChunk s chunk s') (i : Converter)
    (known : (Conversion.escaped .html).Among [chunk] i) : s.generators.size ≤ i.generator := by
  obtain ⟨i, own⟩ := i
  have mem := List.mem_singleton.mp known.2
  cases h with
  | items v =>
    cases mem
    exact Nat.le_refl _
  | text | result => cases mem

/-- What comes of the chunk is escaped: a text is so already, a coroutine converts what it awaits, a generator
the items. -/
theorem EscapedChunk.promises (h : EscapedChunk s chunk s') (v : Value) (mem : v ∈ [chunk]) :
    s'.Promises (.escaped .html) v := by
  obtain rfl := List.mem_singleton.mp mem
  cases h with
  | @text heap u _ made => exact ⟨rfl, heap, u, congrArg (Except.map Value.text) made⟩
  | result v => exact ⟨v, s.bodyOf_newCoroutine _⟩
  | items v =>
    refine ⟨{ body := .convert v none (.escaped .html) }, ?_, rfl⟩
    show (s.generators.push _)[s.generators.size]? = _
    rw [Array.getElem?_push_size]

/-- What is emitted of something escaped is escaped. -/
theorem Emits.escaped {raw : Value} {p : Value × Heap} (emits : Emits raw p)
    (escaped : raw = .none ∨ raw.Escaped) : p.1.Escaped := by
  have nothing : (Value.text "").Escaped := ⟨{}, .none, "", rfl, rfl⟩
  unfold Emits at emits
  rw [emits]
  rcases escaped with rfl | escaped
  · exact nothing
  · unfold Heap.normalize
    split
    · exact escaped
    · obtain ⟨-, -, text, -, rfl⟩ := escaped
      exact nothing

/-! ### What is returned -/

variable {r : Render} {l : EventLoop} {m m' : Moment} {g : Ledger}

theorem Moment.Does.loop {β : Type} {x : StateM Store β} (does : Does x m m') :
    m'.loop = (m.loop.withStore x).2 := by
  cases does <;> rfl

/-- An escaped-output tag appends its chunk to the stream, or nothing. -/
theorem Render.writes_escaped (r : Render) (html : r.template.options.escape = .html) (v : Value)
    (l : EventLoop) :
    (r.escapedMembers v l.store = [] ∧ (l.withStore (r.writeEscaped v).run).2 = l) ∨
      ∃ chunk s', r.escapedMembers v l.store = [chunk] ∧ EscapedChunk l.store chunk s' ∧
        (l.withStore (r.writeEscaped v).run).2 =
          (({ l with store := s' } : EventLoop).withStore (pushChunk r.stream chunk).run).2 := by
  have loop : (l.withStore (r.writeEscaped v).run).2 =
      { l with store := ((r.writeEscaped v).run.run l.store).2 } := rfl
  unfold Render.escapedMembers
  rw [loop, Render.writeEscaped, Act.run_bind, html]
  rcases escapedChunk_html v l.store with ⟨fault, made⟩ | ⟨chunk, s', made, escaped⟩
  · rw [made]
    exact .inl ⟨rfl, rfl⟩
  · rw [made]
    exact .inr ⟨chunk, s', rfl, escaped, rfl⟩

/-- The course of a stream when a chunk is made, with coroutines that are new, and pushed. -/
theorem Course.push_new {id : Nat} {l : EventLoop} (course : Course id l g)
    (outside : (∀ p ∈ l.waiting, p.1 < l.store.futures.size) → Outside id g l { l with store := s' })
    (new : ∀ k, .process .coroutine k ∈ s'.heap.chunkMembers chunk →
      l.store.coroutines.size ≤ k ∧ k < s'.coroutines.size) :
    Course id (({ l with store := s' } : EventLoop).withStore (pushChunk id chunk).run).2
      (g.accept (s'.heap.chunkMembers chunk)) := by
  obtain ⟨st, standing⟩ := course.standing
  have made := course.next (.outside (outside standing.waiting))
  refine made.next (.push chunk fun k mem => ?_)
  obtain ⟨ge, lt⟩ := new k mem
  refine ⟨lt, fun a call same => ?_⟩
  obtain ⟨_, there, -⟩ := (standing.placed a call).coroutine
  have old := (Array.getElem?_eq_some_iff.mp there).1
  omega

/-- The course of the stream when its chunk has been made and is pushed. -/
theorem Course.pushed {id : Nat} {l : EventLoop} (course : Course id l g)
    (escaped : EscapedChunk l.store chunk s') :
    Course id (({ l with store := s' } : EventLoop).withStore (pushChunk id chunk).run).2
      (g.accept [chunk]) := by
  rw [← escaped.members s'.heap]
  refine course.push_new (escaped.outside id g) fun k mem => ?_
  rw [escaped.members] at mem
  obtain ⟨rfl, lt⟩ := escaped.fresh mem
  exact ⟨Nat.le_refl _, lt⟩

/-- A source that is accepted stays the one of its number. -/
theorem Onward.source_getElem? {id n : Nat} {l l' : EventLoop} {g g' : Ledger} {source : Source}
    (onward : Onward id l g l' g') (known : g.accepted[n]?.map (·.source) = some source) :
    ∃ e, g'.accepted[n]? = some e ∧ e.source = source := by
  obtain ⟨more, same⟩ := onward.sources
  have there : (g'.accepted.map (·.source))[n]? = some source := by
    rw [← List.getElem?_map] at known
    rw [← same, List.getElem?_append_left (List.getElem?_eq_some_iff.mp known).1, known]
  rw [List.getElem?_map] at there
  exact Option.map_eq_some_iff.mp there

/-- A source that is accepted after the sources known is one of those that were pushed. -/
theorem Ledger.source_accept {g : Ledger} {members : List Value} {sources : List Source} {n : Nat}
    (flat : flatten members = .ok sources) (behind : g.accepted.length ≤ n)
    (lt : n < (g.accept members).accepted.length) :
    ∃ source ∈ sources, (g.accept members).accepted[n]?.map (·.source) = some source := by
  cases closed : g.closing with
  | some fault =>
    rw [g.accept_of_closed (by rw [closed]; rfl)] at lt
    omega
  | none =>
    rw [g.accept_of_flatten closed flat] at lt ⊢
    dsimp only at lt ⊢
    rw [List.getElem?_append_right behind, List.getElem?_map, Option.map_map]
    rw [List.length_append, List.length_map] at lt
    have inside : n - g.accepted.length < sources.length := by omega
    exact ⟨_, List.getElem_mem inside, by rw [List.getElem?_eq_getElem inside]; rfl⟩

/-- Pushing a chunk does nothing to what is promised. -/
theorem Store.Promises.pushed {conversion : Conversion} {members : List Value} {s : Store}
    (promised : ∀ v ∈ members, s.Promises conversion v) (id : Nat) (chunk : Value) :
    ∀ v ∈ members, ((pushChunk id chunk).run.run s).2.Promises conversion v := by
  have pushes : Obeys (Conduct.faithful (conversion.Among members)) (pushChunk id chunk) :=
    obeys_pushChunk id chunk
  exact Store.Promises.goes promised (pushes.run s).goes

/-- What is promised at some moment with new generators is so from then on, and all tasks come to it. -/
theorem Moment.Does.promised {β : Type} {x : StateM Store β} {l₀ : EventLoop} {m₂ : Moment}
    {conversion : Conversion} {members : List Value} (does : Does x m m') (unbegun : l₀.Unbegun)
    (before : (rest l₀).Later m)
    (absent : ∀ i, conversion.Among members i → m.store.generators.size ≤ i.generator)
    (promised : ∀ v ∈ members, m'.store.Promises conversion v) (later : m'.Later m₂) :
    m₂.loop.Sound (conversion.Among members) ∧ ∀ v ∈ members, m₂.store.Promises conversion v := by
  obtain ⟨-, sound⟩ := does.sound (sound_of_unbegun unbegun before absent)
  have converting := Store.Promises.converting promised
  obtain ⟨sound₂, goes⟩ := (sound (.of_converting converting)).later converting later
  exact ⟨sound₂.loop, Store.Promises.goes promised goes⟩

/-- Whatever the value of an escaped-output tag is, what a consumer receives of it is safe in HTML, since
it has gone through the escape function: this holds of every chunk that pulls return, whenever they do, of
the source that the tag has appended to its stream. The output of the tag is what is done at the moment
`m` of an event loop in which nothing had been begun at first. -/
theorem Render.escaped_received {l₀ : EventLoop} (unbegun : l₀.Unbegun)
    (before : (Moment.rest l₀).Later m) (html : r.template.options.escape = .html)
    (writes : Moment.Does (r.writeEscaped v).run m m') (course : Course r.stream m.loop g) :
    (∀ e context, (Rendering.machine e r context).output true v = Eval.act (r.writeEscaped v)) ∧
    Course r.stream m'.loop (g.accept (r.escapedMembers v m.store)) ∧
    ∀ m₂ g₂, m'.Later m₂ →
      Onward r.stream m'.loop (g.accept (r.escapedMembers v m.store)) m₂.loop g₂ →
      ∀ n, g.accepted.length ≤ n → n < (g.accept (r.escapedMembers v m.store)).accepted.length →
        ∀ p ∈ g₂.returnedOf m₂.store n, ∃ (heap : Heap) (u : Value) (text : String),
          heap.htmlText u = .ok text ∧ p.1 = .text text ∧ Text.Safe text := by
  rcases r.writes_escaped html v m.loop with ⟨none, loop⟩ | ⟨chunk, s', one, escaped, loop⟩
  · have nothing : g.accept (r.escapedMembers v m.store) = g := by
      rw [show r.escapedMembers v m.store = [] from none]
      exact g.accept_of_nothing rfl
    rw [nothing, writes.loop, loop]
    refine ⟨fun _ _ => rfl, course, fun m₂ g₂ _ _ n behind lt => ?_⟩
    omega
  · have appended := course.pushed escaped
    rw [← loop, ← writes.loop] at appended
    rw [show r.escapedMembers v m.store = [chunk] from one]
    refine ⟨fun _ _ => rfl, appended, fun m₂ g₂ later onward n behind lt p mem => ?_⟩
    -- The tasks of the source come to what is promised with the chunk.
    have store : m'.store = ((pushChunk r.stream chunk).run.run s').2 := by
      rw [Moment.store, writes.loop, loop]
      rfl
    have promised := Store.Promises.pushed escaped.promises r.stream chunk
    rw [← store] at promised
    obtain ⟨sound, promised⟩ := writes.promised unbegun before escaped.absent promised later
    -- The chunk is one of those that come of the source.
    obtain ⟨source, classified, flat⟩ := escaped.classified
    obtain ⟨_, pushed, accepted⟩ := Ledger.source_accept flat behind lt
    cases List.mem_singleton.mp pushed
    obtain ⟨e, known, rfl⟩ := onward.source_getElem? accepted
    have course₂ := onward.course appended
    obtain ⟨st, done, -, -, working⟩ := course₂.working
    obtain ⟨raw, comes, emits⟩ := course₂.emits_of_mem known mem
    have own := (ChunkStream.classify_some classified).1
    rw [← own] at classified
    have here : e.source.value ∈ [chunk] := by rw [own]; exact List.mem_singleton_self _
    have made := sound.emits_made here (promised _ here) classified
      (working.works e (List.mem_of_getElem? known)) comes
    obtain ⟨heap, u, text, made, same⟩ := emits.escaped (made.imp_right Conversion.Makes.escaped)
    exact ⟨heap, u, text, made, same, safe_of_htmlText made⟩

/-- A render that writes nothing by itself. -/
def Render.blank : Render :=
  withData ⟨none, none, "", ⟨[], [], false⟩, {}⟩ []

/-- Who reads the stream of a tag with the value `<` receives the entity for it. -/
theorem Render.less_than_received : ∃ l g p text,
    Course 0 l g ∧ p ∈ g.returnedOf l.store 0 ∧ p.1 = .text "&lt;" ∧ p.1 = .text text ∧ Text.Safe text := by
  have writing : ∀ {gives : Progress → Prop} (C : ConductGiving gives),
      Obeys C (Run.act (Render.blank.writeEscaped (.text "<"))) :=
    fun C => Run.obeys_act ((obeys_escapedChunk _ _).bind fun _ => obeys_pushChunk _ _)
  have calling : ∀ {gives : Progress → Prop} (C : ConductGiving gives),
      Obeys C (Run.act (Session.startCall "reader" (.call 0 (.pull none)))) :=
    fun C => Run.obeys_act ((Act.obeys_always (Store.obeys_newCoroutine _)).bind
      fun _ => Act.obeys_always (Store.obeys_newTask _ _))
  have opened : Course 0 _ _ := .start (l := {}) rfl nofun
  have begun : EventLoop.Unbegun { store := oneStream } := ⟨rfl, rfl⟩
  obtain ⟨-, appended, received⟩ :=
    Render.escaped_received (r := .blank) begun (.single (.outside writing)) rfl .aside opened
  have called := appended.next (.call "reader" none)
  have returned := called.next (.turn (r := .step 0 none) (List.mem_cons_self ..) rfl rfl)
  obtain ⟨-, -, text, -, same, safe⟩ := received (.rest _) _
    (.tail (.tail (.tail (.single .ended) (.outside calling)) .ended) (.turn (r := .step 0 none) rfl))
    (.next (.next .here (.call "reader" none)) (.turn (r := .step 0 none) (List.mem_cons_self ..) rfl rfl))
    0 (Nat.le_refl _) Nat.one_pos _ (List.mem_cons_self ..)
  exact ⟨_, _, _, text, returned, List.mem_cons_self .., rfl, same, safe⟩

end

end StreamTemplate
