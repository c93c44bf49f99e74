import StreamTemplate.Proofs.Render.Wrapped
import StreamTemplate.Proofs.Stream.Delivery

/-!
# Raw output and what it is made of

A raw tag pushes something for every part of its value: a literal as it is, the text of what is no source,
and for what has to be waited for a new generator or coroutine that converts what comes of it. All of it can
be pushed, and it brings nothing but literals, so the stream never finds a chunk of the wrong type in it.
When the parts can be pushed themselves, each brings the same chunks as what is pushed for it, in the same
order. There are two exceptions. What is absent brings nothing by itself, and is an empty chunk when it is
written. And a stream waits for a future by listening to it, whereas code has to await it, which it cannot
if the future was gone through like a sequence while it was pending.
-/

namespace StreamTemplate

/-- What a raw tag has in the place of a part of its value. -/
inductive Store.Stands (s : Store) (part : Value) : Value → Prop
  | literal {heap v} (source : part.isAsyncIterable = false ∧ part.isAwaitable = false)
      (made : Heap.literal heap part = .ok v) : Stands s part v
  | items {i} (iterable : part.isAsyncIterable)
      (known : s.generators[i]? = some (.converts part none .raw false)) :
      Stands s part (.process .asyncGenerator i)
  | result {c} (iterable : part.isAsyncIterable = false) (awaitable : part.isAwaitable)
      (known : s.coroutines[c]? = some { body := .convert part .raw }) :
      Stands s part (.process .coroutine c)

section

variable {heap : Heap} {u v : Value}

theorem literal_of_isLiteral (literal : v.isLiteral) : heap.literal v = .ok v := by
  unfold Heap.literal
  split
  · cases literal
  · rw [if_pos literal]

theorem isEmission_of_isLiteral (literal : v.isLiteral) : v.isEmission := by
  cases v <;> first | exact literal | cases literal

/-- What raw output makes can be emitted. -/
theorem Conversion.Makes.isEmission (h : Conversion.raw.Makes v) : v.isEmission := by
  obtain ⟨_, _, made⟩ := h
  exact isEmission_of_isLiteral (isLiteral_of_literal made)

end

/-! ### What is brought -/

/-- What others do who leave what stands for a part to itself, as its own surroundings see it. -/
def Others.outside (o : Others) (part : Value) : Value → Others
  | .process .coroutine c => { o with meanwhile := Store.Around o.meanwhile c }
  | .process .asyncGenerator i => o.leaving i (.converts part (some part) .raw false)
  | _ => o

/-- What they do as the part sees it that is awaited or gone through. -/
def Others.inside (o : Others) (part : Value) : Value → Others
  | .process .coroutine c => { o with meanwhile := Store.Within o.meanwhile c }
  | .process .asyncGenerator i => o.leaving i (.converts part (some part) .raw true)
  | _ => o

/-- The store when what stands for a part has begun to run. -/
def Store.entered (s : Store) (part : Value) : Value → Store
  | .process .coroutine c => s.setCoroutine c .running
  | .process .asyncGenerator i => s.setGenerator i (.converts part none .raw true)
  | _ => s

/-- The store when it has come to its end. -/
def Store.left (s : Store) : Value → Store
  | .process .coroutine c => s.setCoroutine c .closed
  | .process .asyncGenerator i => s.setGenerator i { body := .finished }
  | _ => s

section

variable {s s' : Store} {part member : Value} {source raw : Source} {o : Others} {xs : List Value}
  {depth : Nat}

theorem classify_of_iterable (iterable : part.isAsyncIterable) :
    classify part = .ok (some ⟨.substream, part⟩) := by
  cases part with
  | process kind | cell kind => cases kind <;> first | rfl | cases iterable
  | _ => cases iterable

theorem classify_of_awaitable (iterable : part.isAsyncIterable = false) (awaitable : part.isAwaitable) :
    classify part = .ok (some ⟨.deferred, part⟩) := by
  have literal : part.isLiteral = false := by
    cases part with
    | cell kind => cases kind <;> first | rfl | cases awaitable
    | _ => first | rfl | cases awaitable
  unfold classify
  split
  · cases awaitable
  · rw [literal, iterable, awaitable]
    rfl

/-- What can be pushed and does not have to be waited for is a literal. -/
theorem isLiteral_of_classify (waitless : part.isAsyncIterable = false ∧ part.isAwaitable = false)
    (direct : classify part = .ok (some source)) : part.isLiteral := by
  unfold classify at direct
  split at direct
  · cases direct
  · rw [waitless.1, waitless.2] at direct
    by_contra literal
    rw [if_neg literal] at direct
    cases direct

/-- What stands for a part brings what the part would have brought, as literals. -/
theorem Store.Stands.brings (stands : s.Stands part member) (direct : classify part = .ok (some source))
    (written : classify member = .ok (some raw)) (unclaimed : part.Unclaimed s) :
    raw.Brings (o.outside part member) (engine (depth + 1)) (fun _ u x => x = u) s xs s' ↔
      ∃ s₁, source.Brings (o.inside part member) (engine depth) (fun heap u x => heap.literal u = .ok x)
        (s.entered part member) xs s₁ ∧ s' = s₁.left member := by
  cases stands with
  | literal waitless made =>
    have literal := isLiteral_of_classify waitless direct
    cases (literal_of_isLiteral literal).symm.trans made
    cases (classify_of_literal literal).symm.trans direct
    cases (classify_of_literal literal).symm.trans written
    have same : s.entered part part = s ∧ ∀ s₁ : Store, s₁.left part = s₁ := by
      cases part <;> first | exact ⟨rfl, fun _ => rfl⟩ | cases literal
    simp only [Source.brings_literal, same.1, same.2, literal_of_isLiteral literal]
    constructor
    · rintro ⟨x, rfl, rfl, rfl⟩
      exact ⟨_, ⟨_, rfl, rfl, rfl⟩, rfl⟩
    · rintro ⟨s₁, ⟨x, ⟨⟩, rfl, rfl⟩, rfl⟩
      exact ⟨part, rfl, rfl, rfl⟩
  | items iterable known =>
    cases (classify_of_iterable iterable).symm.trans direct
    cases written
    simp only [Source.brings_substream]
    refine (and_iff_right nofun).trans ((produces_convert (.inl rfl) known).trans ?_)
    constructor
    · rintro ⟨iterates, s₁, produces, same⟩
      exact ⟨s₁, ⟨(iterates rfl).2, produces⟩, same⟩
    · rintro ⟨s₁, ⟨good, produces⟩, same⟩
      exact ⟨fun _ => ⟨iterable, good⟩, s₁, produces, same⟩
  | result iterable awaitable known =>
    cases (classify_of_awaitable iterable awaitable).symm.trans direct
    cases written
    simp only [Source.brings_deferred]
    constructor
    · rintro ⟨x, _, comes, rfl, rfl⟩
      obtain ⟨u, s₁, awaited, made, same⟩ := (workComesTo_convert known unclaimed).mp comes
      exact ⟨s₁, ⟨u, _, awaited, made, rfl⟩, same⟩
    · rintro ⟨s₁, ⟨u, x, awaited, made, rfl⟩, same⟩
      exact ⟨_, _, (workComesTo_convert known unclaimed).mpr ⟨u, s₁, awaited, made, same⟩, rfl, rfl⟩

end

/-! ### Making the chunk -/

section

variable {heap : Heap} {s s' : Store} {v part member : Value} {w : Written}

/-- What is written for a part stands for it. -/
theorem Written.StoodBy.stands (stood : w.StoodBy s s' member) (written : writeMember heap part = .ok w) :
    s'.Stands part member := by
  have literal (waitless : part.isAsyncIterable = false ∧ part.isAwaitable = false)
      (written : Written.chunk <$> heap.literal part = .ok w) : s'.Stands part member := by
    cases made : heap.literal part with
    | error =>
      rw [made] at written
      cases written
    | ok u =>
      rw [made] at written
      cases written
      cases (show member = u from stood)
      exact .literal waitless made
  unfold writeMember Conversion.write at written
  split_ifs at written with batch plain iterable awaitable
  · refine literal ?_ written
    cases part with
    | cell kind => cases kind <;> first | exact ⟨rfl, rfl⟩ | cases batch
    | _ => first | exact ⟨rfl, rfl⟩ | cases batch
  · have isLiteral := (Bool.and_eq_true_iff.mp plain).1
    refine literal ?_ (by rw [literal_of_isLiteral isLiteral]; exact written)
    cases part with
    | cell kind => cases kind <;> first | exact ⟨rfl, rfl⟩ | cases isLiteral
    | _ => first | exact ⟨rfl, rfl⟩ | cases isLiteral
  · cases written
    obtain ⟨i, rfl, -, known⟩ := stood
    exact .items iterable known
  · cases written
    obtain ⟨c, rfl, -, known⟩ := stood
    exact .result (Bool.not_eq_true _ ▸ iterable) awaitable known
  · exact literal ⟨Bool.not_eq_true _ ▸ iterable, Bool.not_eq_true _ ▸ awaitable⟩ written

/-- What stands for a part promises literals. -/
theorem Store.Stands.promises (h : s.Stands part member) : s.Promises .raw member := by
  cases h with
  | @literal heap _ _ made =>
    have literal := isLiteral_of_literal made
    have promised : member.isLiteral ∧ Conversion.raw.Makes member := ⟨literal, heap, part, made⟩
    unfold Promises
    split
    · cases literal
    · cases literal
    · exact promised
  | items _ known => exact ⟨_, known, rfl⟩
  | result _ _ known => exact ⟨part, by rw [bodyOf, known]; rfl⟩

end

/-! ### What a raw tag pushes -/

section

variable {id : Nat} {l : EventLoop} {st : ChunkStream} {s s' : Store} {v part member chunk : Value}
  {parts members : List Value}

namespace RawMembers

theorem stands (h : RawMembers s s' parts members) : List.Forall₂ s'.Stands parts members :=
  h.stood.imp fun _ _ ⟨_, written, stood⟩ => stood.stands written

theorem promises (h : RawMembers s s' parts members) (v : Value) (mem : v ∈ members) :
    s'.Promises .raw v := by
  obtain ⟨part, -, stands⟩ := exists_of_forall₂ h.stands mem
  exact stands.promises

/-- A generator among the members is new. -/
theorem absent (h : RawMembers s s' parts members) (i : Converter)
    (known : Conversion.raw.Among members i) : s.generators.size ≤ i.generator := by
  obtain ⟨part, -, w, written, stood⟩ := exists_of_forall₂ h.stood known.2
  cases w with
  | chunk u =>
    have literal := isLiteral_of_writeMember written
    rw [← show Value.process .asyncGenerator i.generator = u from stood] at literal
    cases literal
  | items =>
    obtain ⟨_, ⟨⟩, new, -⟩ := stood
    exact new
  | result =>
    obtain ⟨_, other, -⟩ := stood
    cases other

/-- The members can all be pushed, and each is a source by itself. -/
theorem sources (h : RawMembers s s' parts members) :
    ∃ raws, flatten members = .ok raws ∧ raws.map (·.value) = members := by
  have classified (v : Value) (mem : v ∈ members) := (h.promises v mem).classified
  have accepted (v : Value) (mem : v ∈ members) : v.Accepted := by
    obtain ⟨kind, made⟩ := classified v mem
    exact ⟨_, made⟩
  obtain ⟨raws, flat, values⟩ := flatten_of_accepted accepted
  refine ⟨raws, flat, values.trans (List.filter_eq_self.mpr fun v mem => ?_)⟩
  obtain ⟨kind, made⟩ := classified v mem
  cases v <;> first | rfl | cases made

/-- Pushing them goes through. -/
theorem pushed (h : RawMembers l.store s parts (s.heap.chunkMembers chunk))
    (stream : l.store.streams[id]? = some st) :
    (({ l with store := s } : EventLoop).withStore (pushChunk id chunk).run).1 = .ok () := by
  have stream : s.streams[id]? = some st := by
    obtain ⟨_, _, _, rfl⟩ := h.makes
    exact stream
  obtain ⟨raws, flat, -⟩ := h.sources
  rw [EventLoop.push_eq]
  cases closed : st.closed with
  | false => rw [EventLoop.push_of_flatten stream closed flat]
  | true =>
    have through : (Store.disposal (s.heap.chunkMembers chunk) s).1 = .ok () := by
      refine Store.disposal_of_free fun k mem => ?_
      obtain ⟨-, body, known⟩ := h.new mem
      rw [Store.coroutineState, known]
      nofun
    have does := ChunkStream.does_push id st s (s.heap.chunkMembers chunk)
    rw [if_pos closed] at does
    rw [Standing.withStore_onStream stream does]
    exact through

end RawMembers

variable {r : Render} {m m' : Moment} {g : Ledger}

end

end StreamTemplate
