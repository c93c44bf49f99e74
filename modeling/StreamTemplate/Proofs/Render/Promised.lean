import StreamTemplate.Proofs.Render.Results
import StreamTemplate.Proofs.Stream.Batch
import StreamTemplate.Proofs.Stream.Verdict
import StreamTemplate.Proofs.Stream.Work

/-!
# What is promised with a chunk

What an output tag pushes is made by its conversion: literals, new coroutines that convert what they await,
and new generators that convert the items of an iterable. Whatever comes of such a source has been made by
the conversion as well, at any time from then on. So a source that has failed has done so by itself,
provided that the conversion makes nothing that is no chunk.
-/

namespace StreamTemplate

/-- The generators among the members of a chunk, which are to convert items in this way. -/
def Conversion.Among (conversion : Conversion) (members : List Value) (i : Converter) : Prop :=
  i.conversion = conversion ∧ .process .asyncGenerator i.generator ∈ members

/-- Whatever comes of a member of a chunk is made by the conversion: a literal has been made so, a coroutine
converts what it awaits, a generator the items. -/
def Store.Promises (s : Store) (conversion : Conversion) : Value → Prop
  | .process .coroutine c => ∃ v, s.bodyOf c = some (.convert v conversion)
  | .process .asyncGenerator i => s.Converting ⟨i, conversion⟩
  | v => v.isLiteral ∧ conversion.Makes v

section

variable {conversion : Conversion} {members : List Value} {s s' : Store} {v : Value}

namespace Store.Promises

theorem goes (h : ∀ v ∈ members, s.Promises conversion v)
    (goes : s.Goes (conversion.Among members) s') : ∀ v ∈ members, s'.Promises conversion v := by
  have here (i : Converter) (known : conversion.Among members i) : s.Converting i := by
    obtain ⟨i, own⟩ := i
    obtain ⟨rfl, mem⟩ := known
    exact h _ mem
  intro v mem
  have promised := h v mem
  unfold Promises at promised ⊢
  split at promised
  · next c =>
    obtain ⟨u, body⟩ := promised
    exact ⟨u, goes.bodyOf c _ body⟩
  · next i => exact goes.converting here ⟨i, conversion⟩ ⟨rfl, mem⟩
  · exact promised

theorem converting (h : ∀ v ∈ members, s.Promises conversion v) (i : Converter)
    (known : conversion.Among members i) : s.Converting i := by
  obtain ⟨i, own⟩ := i
  obtain ⟨rfl, mem⟩ := known
  exact h _ mem

end Store.Promises

theorem classify_of_literal (literal : v.isLiteral) : classify v = .ok (some ⟨.literal, v⟩) := by
  have given : v.isAbsent = false := by cases v <;> first | rfl | cases literal
  rw [classify_of_given given, if_pos literal]

/-- What is promised with can be pushed. -/
theorem Store.Promises.classified (h : s.Promises conversion v) :
    ∃ kind, classify v = .ok (some ⟨kind, v⟩) := by
  unfold Promises at h
  split at h
  · exact ⟨.deferred, rfl⟩
  · exact ⟨.substream, rfl⟩
  · exact ⟨.literal, classify_of_literal h.1⟩

end

/-! ### What comes of a source -/

/-- The work of a source of this kind has brought a value. -/
def SourceKind.Brings (kind : SourceKind) (p : Progress) (raw : Value) : Prop :=
  (kind = .deferred ∧ p = .finished raw) ∨
    kind = .substream ∧ ∃ tuple, p = .finished (.tuple tuple [.bool false, raw])

theorem SourceKind.brings_of_mem_yield {kind : SourceKind} {p : Progress} {raw : Value}
    (mem : raw ∈ kind.yield p) : kind.Brings p raw := by
  unfold SourceKind.yield at mem
  split at mem
  · next v =>
    cases List.mem_singleton.mp (List.mem_filter.mp mem).1
    exact .inl ⟨rfl, rfl⟩
  · next tuple v =>
    cases List.mem_singleton.mp (List.mem_filter.mp mem).1
    exact .inr ⟨rfl, tuple, rfl⟩
  · cases mem

section

variable {conversion : Conversion} {members : List Value} {l : EventLoop} {e : Accepted}
  {raw : Value} {fault : Fault}

/-- What the work of a source brings is made by the conversion if that is promised and all tasks come to what
they are to deliver. -/
theorem EventLoop.Sound.brings_made {w : Nat} (h : l.Sound (conversion.Among members))
    (mem : e.source.value ∈ members) (promised : l.store.Promises conversion e.source.value)
    (classified : classify e.source.value = .ok (some e.source)) (runs : e.source.RunBy l.store w)
    (brings : e.source.kind.Brings (l.store.progress w) raw) : raw = .none ∨ conversion.Makes raw := by
  obtain ⟨⟨kind, v⟩, work⟩ := e
  dsimp only at mem promised classified brings
  unfold Store.Promises at promised
  split at promised
  · next c =>
    cases classified
    obtain ⟨u, body⟩ := promised
    obtain ⟨-, finished⟩ | ⟨other, -⟩ := brings
    · refine (h.results w raw finished).imp_right fun fits => ?_
      obtain ⟨b, same, delivers⟩ := fits c (runs.awaits rfl c rfl)
      cases body.symm.trans same
      exact delivers
    · cases other
  · next i =>
    cases classified
    obtain ⟨c, it, task, body, heap, iterated⟩ := runs.asks rfl
    cases iterated
    obtain ⟨other, -⟩ | ⟨-, tuple, finished⟩ := brings
    · cases other
    · rcases h.results w _ finished with nothing | fits
      · cases nothing
      · obtain ⟨b, same, delivers⟩ := fits c task
        cases body.symm.trans same
        exact .inr (delivers conversion ⟨rfl, mem⟩ tuple raw rfl)
  · cases (classify_of_literal promised.1).symm.trans classified
    obtain ⟨other, -⟩ | ⟨other, -⟩ := brings <;> cases other

/-- A source with which something is promised is a literal, or it is gone through by itself or run, and all
that it contributes is brought by its work. -/
theorem Accepted.slots_of_promised {s : Store} (promised : s.Promises conversion e.source.value)
    (classified : classify e.source.value = .ok (some e.source)) :
    (e.source.kind = .literal ∧ conversion.Makes e.source.value ∧ e.slots = [.ready e.source.value]) ∨
      e.source.kind ≠ .literal ∧ e.slots = e.work.map (.awaited e.source.kind) ∧
        ∀ heap, Store.iterator heap e.source.value Store.notAsyncIterator = .ok e.source.value := by
  obtain ⟨⟨kind, v⟩, work⟩ := e
  dsimp only at promised classified
  unfold Store.Promises at promised
  split at promised
  · cases classified
    exact .inr ⟨nofun, rfl, fun _ => rfl⟩
  · cases classified
    exact .inr ⟨nofun, rfl, fun _ => rfl⟩
  · cases (classify_of_literal promised.1).symm.trans classified
    exact .inl ⟨rfl, promised.2, rfl⟩

/-- So what a source emits is made by the conversion. -/
theorem EventLoop.Sound.emits_made (h : l.Sound (conversion.Among members))
    (mem : e.source.value ∈ members) (promised : l.store.Promises conversion e.source.value)
    (classified : classify e.source.value = .ok (some e.source))
    (works : ∀ w ∈ e.work, e.source.RunBy l.store w) (emitted : raw ∈ e.emissions l.store) :
    raw = .none ∨ conversion.Makes raw := by
  obtain ⟨slot, isSlot, yields⟩ := List.mem_flatMap.mp emitted
  obtain ⟨-, made, slots⟩ | ⟨-, slots, -⟩ := Accepted.slots_of_promised promised classified
  · rw [slots, List.mem_singleton] at isSlot
    subst isSlot
    cases List.mem_singleton.mp yields
    exact .inr made
  · rw [slots] at isSlot
    obtain ⟨w, known, rfl⟩ := List.mem_map.mp isSlot
    exact h.brings_made mem promised classified (works w known) (SourceKind.brings_of_mem_yield yields)

end

end StreamTemplate
