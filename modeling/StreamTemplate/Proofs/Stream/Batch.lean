import Mathlib.Tactic.SplitIfs
import StreamTemplate.Proofs.Stream.Standing

/-!
# Pushing a batch

A list or a tuple is taken apart when it is pushed. To an open stream that is the same as pushing its
members one after the other: the sources of the members are queued in order, and a consumer that waits is
woken once if there are any. A member that is no source spoils the whole batch, and then nothing has
happened at all.
-/

namespace StreamTemplate

variable {id : Nat} {l : EventLoop} {g : Ledger} {st : ChunkStream} {members : List Value}
  {sources : List Source} {fault : Fault}

/-! ### The sources of several values -/

/-- A value that stands for nothing at all. -/
def Value.isAbsent : Value → Bool
  | none => true
  | _ => false

/-- A value that can be pushed. -/
def Value.Accepted (v : Value) : Prop :=
  ∃ source, classify v = .ok source

theorem flatten_cons_of_ok {v : Value} {source : Option Source} (first : classify v = .ok source) :
    flatten (v :: members) = (source.toList ++ ·) <$> flatten members := by
  rw [flatten, first]
  rfl

theorem flatten_cons_of_error {v : Value} (first : classify v = .error fault) :
    flatten (v :: members) = .error fault := by
  rw [flatten, first]
  rfl

theorem classify_of_given {v : Value} (given : v.isAbsent = false) :
    classify v = if v.isLiteral then .ok (some ⟨.literal, v⟩)
      else if v.isAsyncIterable then .ok (some ⟨.substream, v⟩)
      else if v.isAwaitable then .ok (some ⟨.deferred, v⟩)
      else .error (.chunkType v.className v.isBatch) := by
  cases v <;> first | rfl | cases given

theorem Value.eq_none_of_isAbsent {v : Value} (absent : v.isAbsent = true) : v = .none := by
  cases v <;> first | rfl | cases absent

/-- A value that can be pushed stands for nothing, or it is a source. -/
theorem Value.Accepted.cases {v : Value} (h : v.Accepted) :
    v = .none ∨ v.isAbsent = false ∧ ∃ source, classify v = .ok (some source) ∧ source.value = v := by
  cases absent : v.isAbsent with
  | true => exact .inl (eq_none_of_isAbsent absent)
  | false =>
    obtain ⟨source, made⟩ := h
    cases source with
    | some source => exact .inr ⟨rfl, source, made, (ChunkStream.classify_some made).1⟩
    | none =>
      rw [classify_of_given absent] at made
      split_ifs at made <;> cases made

/-- A value that is refused is so for what it is. -/
theorem classify_error {v : Value} (h : classify v = .error fault) :
    fault = .chunkType v.className v.isBatch := by
  cases absent : v.isAbsent with
  | true =>
    rw [Value.eq_none_of_isAbsent absent] at h
    cases h
  | false =>
    rw [classify_of_given absent] at h
    split_ifs at h
    cases h
    rfl

/-- Values that can all be pushed bring the sources that they are, in order. -/
theorem flatten_of_accepted (accepted : ∀ v ∈ members, v.Accepted) :
    ∃ sources, flatten members = .ok sources ∧
      sources.map (·.value) = members.filter (!·.isAbsent) := by
  induction members with
  | nil => exact ⟨[], rfl, rfl⟩
  | cons v members ih =>
    obtain ⟨sources, flat, values⟩ := ih fun w mem => accepted w (.tail _ mem)
    rcases (accepted v (.head _)).cases with rfl | ⟨given, source, made, value⟩
    · exact ⟨sources, by rw [flatten_cons_of_ok rfl, flat]; rfl, values⟩
    · refine ⟨source :: sources, by rw [flatten_cons_of_ok made, flat]; rfl, ?_⟩
      rw [List.map_cons, value, values, List.filter_cons_of_pos (by rw [given]; rfl)]

/-- The first value that cannot be pushed spoils all of them. -/
theorem flatten_of_refused {v : Value} (mem : v ∈ members) (refused : classify v = .error fault) :
    ∃ first ∈ members, flatten members = .error (.chunkType first.className first.isBatch) := by
  induction members with
  | nil => cases mem
  | cons w members ih =>
    cases made : classify w with
    | error fault =>
      refine ⟨w, .head _, ?_⟩
      rw [flatten_cons_of_error made, classify_error made]
    | ok source =>
      rcases List.mem_cons.mp mem with rfl | mem
      · cases made.symm.trans refused
      · obtain ⟨first, known, flat⟩ := ih mem
        exact ⟨first, .tail _ known, by rw [flatten_cons_of_ok made, flat]; rfl⟩

/-- What can be pushed by itself is no batch. -/
theorem Value.Accepted.chunkMembers {v : Value} (h : v.Accepted) (heap : Heap) :
    heap.chunkMembers v = [v] := by
  obtain ⟨source, made⟩ := h
  cases v with
  | tuple => cases made
  | cell kind id =>
    cases kind with
    | list => cases made
    | _ => rfl
  | _ => rfl

/-! ### What is done to the event loop -/

namespace Store

theorem woken_woken (s : Store) (waiter : Option Nat) : (s.woken waiter).woken waiter = s.woken waiter := by
  cases waiter with
  | none => rfl
  | some w => rw [woken_some (s := s.woken (some w)), if_neg (not_isPending_woken s w)]

theorem woken_setStream (s : Store) (waiter : Option Nat) :
    (s.setStream id st).woken waiter = (s.woken waiter).setStream id st := by
  cases waiter with
  | none => rfl
  | some w =>
    have same : (s.setStream id st).isPending w = s.isPending w := rfl
    rw [woken_some, woken_some, same]
    split
    · rw [completed_eq, completed_eq]
      have future : (s.setStream id st).futures[w]? = s.futures[w]? := rfl
      rw [future]
      cases s.futures[w]? <;> rfl
    · rfl

end Store

/-- The store when sources have come that a consumer may wait for. -/
def Store.alerted (s : Store) (waiter : Option Nat) (sources : List Source) : Store :=
  if sources.isEmpty then s else s.woken waiter

/-- The event loop when sources have been queued by the stream `id`, which was in the state `st`. -/
def EventLoop.fed (l : EventLoop) (id : Nat) (st : ChunkStream) (sources : List Source) : EventLoop where
  store := (l.store.alerted st.waiter sources).setStream id
    { st with queue := st.queue.append sources }
  waiting := l.waiting

namespace EventLoop

theorem fed_nil (stream : l.store.streams[id]? = some st) : l.fed id st [] = l := by
  have same : l.store.setStream id { st with queue := st.queue.append [] } = l.store :=
    Store.setStream_self stream
  show { l with store := l.store.setStream id { st with queue := st.queue.append [] } } = l
  rw [same]

/-- Sources that are queued one after the other are queued together: who waits is woken once. -/
theorem fed_fed (l : EventLoop) (id : Nat) (st : ChunkStream) (first rest : List Source) :
    (l.fed id st first).fed id { st with queue := st.queue.append first } rest =
      l.fed id st (first ++ rest) := by
  have queue : (st.queue.append first).append rest = st.queue.append (first ++ rest) := by
    simp only [Queue.append, List.reverseAux_eq, List.reverse_append, List.append_assoc]
  have alerted (st' : ChunkStream) :
      ((l.store.alerted st.waiter first).setStream id st').alerted st.waiter rest =
        (l.store.alerted st.waiter (first ++ rest)).setStream id st' := by
    cases rest with
    | nil => rw [List.append_nil]; rfl
    | cons source rest =>
      have some : (first ++ source :: rest).isEmpty = false := by simp
      unfold Store.alerted
      rw [some, if_neg Bool.false_ne_true, List.isEmpty_cons, if_neg Bool.false_ne_true,
        Store.woken_setStream]
      split
      · rfl
      · rw [Store.woken_woken]
  unfold fed
  dsimp only
  rw [alerted, Store.setStream_setStream, queue]

/-- What is pushed to an open stream is queued, unless it is refused. -/
theorem push_of_flatten (stream : l.store.streams[id]? = some st) (opened : st.closed = false)
    (flat : flatten members = .ok sources) :
    l.withStore (Store.onStream id (ChunkStream.push · members)).run = (.ok (), l.fed id st sources) := by
  have does := ChunkStream.does_push id st l.store members
  rw [if_neg (by rw [opened]; exact Bool.false_ne_true), flat] at does
  cases sources with
  | nil => exact Standing.withStore_onStream stream does
  | cons source sources => exact Standing.withStore_onStream stream does

/-- The chunk is taken apart as it is when it is pushed. -/
theorem push_eq (l : EventLoop) (id : Nat) (chunk : Value) : l.withStore (pushChunk id chunk).run =
    l.withStore (Store.onStream id (ChunkStream.push · (l.store.heap.chunkMembers chunk))).run :=
  rfl

theorem push_of_refused (stream : l.store.streams[id]? = some st) (opened : st.closed = false)
    (flat : flatten members = .error fault) :
    l.withStore (Store.onStream id (ChunkStream.push · members)).run = (.error fault, l) := by
  have does := ChunkStream.does_push id st l.store members
  rw [if_neg (by rw [opened]; exact Bool.false_ne_true), flat] at does
  refine (Standing.withStore_onStream stream does).trans ?_
  rw [Store.setStream_self stream]

theorem stream_fed (stream : l.store.streams[id]? = some st) (sources : List Source) :
    (l.fed id st sources).store.streams[id]? = some { st with queue := st.queue.append sources } := by
  have same : (l.store.alerted st.waiter sources).streams = l.store.streams := by
    unfold Store.alerted
    split
    · rfl
    · exact Store.streams_woken ..
  refine Store.streams_setStream _ ?_
  rw [same]
  exact (Array.getElem?_eq_some_iff.mp stream).1

theorem withStore_bind {α β : Type} (l : EventLoop) (x : Act α) (k : α → Act β) :
    l.withStore (x >>= k).run = match l.withStore x.run with
      | (.ok a, l') => l'.withStore (k a).run
      | (.error fault, l') => (.error fault, l') := by
  have run := Act.run_bind x k l.store
  unfold withStore
  change StateT.run (x >>= k).run l.store = _ at run
  rw [run]
  show _ = match ((StateT.run x.run l.store).1, ({ l with store := (StateT.run x.run l.store).2 } : EventLoop)) with
      | (.ok a, l') => l'.withStore (k a).run
      | (.error fault, l') => (.error fault, l')
  obtain ⟨r, s⟩ := StateT.run x.run l.store
  cases r <;> rfl

/-- Values that can all be pushed are queued one after the other. -/
theorem push_each (stream : l.store.streams[id]? = some st) (opened : st.closed = false)
    (accepted : ∀ v ∈ members, v.Accepted) (flat : flatten members = .ok sources) :
    l.withStore (members.forM (pushChunk id)).run = (.ok (), l.fed id st sources) := by
  induction members generalizing l st sources with
  | nil =>
    cases flat
    rw [fed_nil stream]
    rfl
  | cons v members ih =>
    obtain ⟨source, made⟩ := accepted v (.head _)
    have single : flatten [v] = .ok source.toList := by
      rw [flatten_cons_of_ok made, flatten]
      exact congrArg Except.ok (List.append_nil _)
    have first : l.withStore (pushChunk id v).run = (.ok (), l.fed id st source.toList) := by
      rw [push_eq, Value.Accepted.chunkMembers ⟨source, made⟩, push_of_flatten stream opened single]
    rw [flatten_cons_of_ok made] at flat
    cases others : flatten members with
    | error => rw [others] at flat; cases flat
    | ok rest =>
      rw [others] at flat
      cases flat
      show l.withStore (pushChunk id v >>= fun _ => members.forM (pushChunk id)).run = _
      rw [withStore_bind, first]
      dsimp only
      rw [ih (stream_fed stream _) opened (fun w mem => accepted w (.tail _ mem)) others, fed_fed]

end EventLoop

/-- What is taken down of a batch is what is taken down of its members one after the other. -/
theorem Ledger.accept_each (g : Ledger) (accepted : ∀ v ∈ members, v.Accepted) :
    members.foldl (fun g v => g.accept [v]) g = g.accept members := by
  induction members generalizing g with
  | nil => exact (g.accept_of_nothing rfl).symm
  | cons v members ih =>
    rw [List.foldl_cons, ih _ fun w mem => accepted w (.tail _ mem)]
    obtain ⟨rest, others, -⟩ := flatten_of_accepted fun w mem => accepted w (.tail _ mem)
    obtain ⟨source, made⟩ := accepted v (.head _)
    have single : flatten [v] = .ok source.toList := by
      rw [flatten_cons_of_ok made, flatten]
      exact congrArg Except.ok (List.append_nil _)
    have all : flatten (v :: members) = .ok (source.toList ++ rest) := by
      rw [flatten_cons_of_ok made, others]
      rfl
    cases closing : g.closing with
    | some fault =>
      have closed : g.closing.isSome := by rw [closing]; rfl
      rw [g.accept_of_closed closed, g.accept_of_closed closed, g.accept_of_closed closed]
    | none =>
      rw [g.accept_of_flatten closing single, g.accept_of_flatten closing all,
        Ledger.accept_of_flatten (by exact closing) others]
      simp

/-- Pushing a chunk to an open stream is pushing its members one after the other, if each of them can be
pushed: it comes to the same event loop, with the sources of the members in the queue, where what is absent
brings none, and with the consumer woken that waits; so it comes to the same from then on, and the same
is taken down. If one of them cannot be pushed, nothing happens but that the fault of the first such
member is raised: the event loop with all that is in it stays as it is. -/
theorem EventLoop.push_batch {chunk : Value} (stream : l.store.streams[id]? = some st)
    (opened : st.closed = false) (here : l.store.heap.chunkMembers chunk = members) (g : Ledger) :
    ((∀ v ∈ members, v.Accepted) → ∃ sources,
      sources.map (·.value) = members.filter (!·.isAbsent) ∧
      l.withStore (pushChunk id chunk).run = (.ok (), l.fed id st sources) ∧
      l.withStore (members.forM (pushChunk id)).run = (.ok (), l.fed id st sources) ∧
      members.foldl (fun g v => g.accept [v]) g = g.accept members) ∧
    (∀ v ∈ members, ∀ fault, classify v = .error fault → ∃ first ∈ members,
      l.withStore (pushChunk id chunk).run =
        (.error (.chunkType first.className first.isBatch), l) ∧
      g.accept members = g) := by
  subst here
  rw [push_eq]
  refine ⟨fun accepted => ?_, fun v mem fault refused => ?_⟩
  · obtain ⟨sources, flat, values⟩ := flatten_of_accepted accepted
    exact ⟨sources, values, push_of_flatten stream opened flat, push_each stream opened accepted flat,
      g.accept_each accepted⟩
  · obtain ⟨first, known, flat⟩ := flatten_of_refused mem refused
    exact ⟨first, known, push_of_refused stream opened flat, g.accept_of_refused flat⟩

/-- An event loop with a stream that a consumer waits for. -/
def EventLoop.expectant : EventLoop :=
  { store := { futures := #[{}], streams := #[{ waiter := some 0, pulling := true }] } }

/-- A batch wakes the consumer as its first member would; one with a batch inside leaves it waiting. -/
theorem EventLoop.push_batch_expectant : ∃ l,
    expectant.withStore (pushChunk 0 (.tuple (.made 0) [.text "a", .none, .text "b"])).run = (.ok (), l) ∧
    expectant.withStore ([Value.text "a", .none, .text "b"].forM (pushChunk 0)).run = (.ok (), l) ∧
    l.store.isPending 0 = false ∧
    ∃ refused ∈ [Value.text "a", .tuple (.made 1) []],
      expectant.withStore (pushChunk 0 (.tuple (.made 0) [.text "a", .tuple (.made 1) []])).run =
        (.error (.chunkType refused.className refused.isBatch), expectant) := by
  have accepted (v : Value) (mem : v ∈ [Value.text "a", .none, .text "b"]) : v.Accepted := by
    simp only [List.mem_cons, List.not_mem_nil, or_false] at mem
    rcases mem with rfl | rfl | rfl <;> exact ⟨_, rfl⟩
  obtain ⟨whole, -⟩ := @EventLoop.push_batch 0 expectant _ _
    (.tuple (.made 0) [.text "a", .none, .text "b"]) rfl rfl rfl {}
  obtain ⟨-, spoilt⟩ := @EventLoop.push_batch 0 expectant _ _
    (.tuple (.made 0) [.text "a", .tuple (.made 1) []]) rfl rfl rfl {}
  obtain ⟨sources, -, batch, each, -⟩ := whole accepted
  obtain ⟨refused, mem, raises, -⟩ := spoilt (.tuple (.made 1) []) (.tail _ (.head _)) _ rfl
  have woken : (expectant.withStore
      (pushChunk 0 (.tuple (.made 0) [.text "a", .none, .text "b"])).run).2.store.isPending 0 = false := rfl
  rw [batch] at woken
  exact ⟨_, batch, each, woken, refused, mem, raises⟩

end StreamTemplate
