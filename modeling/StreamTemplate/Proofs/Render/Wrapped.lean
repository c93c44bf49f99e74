import StreamTemplate.Proofs.Render.Received
import StreamTemplate.Proofs.Stream.Teardown

/-!
# Coroutines written by output tags

An output tag does not give the coroutine that is its value to the stream. It makes a new coroutine that
is to await the value and convert the result, and that one is queued. When the stream is torn down the new
coroutine is closed, but nothing is done to the one written: if it had not been started, it stays so.
-/

namespace StreamTemplate

/-! ### Making chunks -/

namespace Store

variable {s s' s'' : Store} {c : Nat}

/-- From `s` to `s'` coroutines and generators are made and the heap may change; nothing else does. -/
def Makes (s s' : Store) : Prop :=
  ∃ new new' heap, s' =
    { s with coroutines := s.coroutines ++ new, generators := s.generators ++ new', heap }

namespace Makes

theorem heap (s : Store) (heap : Heap) : s.Makes { s with heap } :=
  ⟨#[], #[], heap, by rw [Array.append_empty, Array.append_empty]⟩

theorem refl (s : Store) : s.Makes s :=
  .heap s s.heap

theorem trans (h : s.Makes s') (h' : s'.Makes s'') : s.Makes s'' := by
  obtain ⟨coroutines, generators, _, rfl⟩ := h
  obtain ⟨coroutines', generators', heap, rfl⟩ := h'
  exact ⟨coroutines ++ coroutines', generators ++ generators', heap, by simp only [Array.append_assoc]⟩

theorem newCoroutine (body : Body) (s : Store) : s.Makes ((Store.newCoroutine body).run s).2 :=
  ⟨#[{ body }], #[], s.heap, by rw [Array.append_empty]; rfl⟩

theorem newGenerator (body : GeneratorBody) (s : Store) :
    s.Makes ((Store.newGenerator body).run s).2 :=
  ⟨#[], #[{ body }], s.heap, by rw [Array.append_empty]; rfl⟩

theorem coroutine (h : s.Makes s') (lt : c < s.coroutines.size) :
    s'.coroutines[c]? = s.coroutines[c]? := by
  obtain ⟨new, _, _, rfl⟩ := h
  exact Array.getElem?_append_left lt

theorem generator {i : Nat} (h : s.Makes s') (lt : i < s.generators.size) :
    s'.generators[i]? = s.generators[i]? := by
  obtain ⟨_, new, _, rfl⟩ := h
  exact Array.getElem?_append_left lt

theorem size_le (h : s.Makes s') : s.coroutines.size ≤ s'.coroutines.size := by
  obtain ⟨new, _, _, rfl⟩ := h
  rw [Array.size_append]
  exact Nat.le_add_right ..

theorem generators_le (h : s.Makes s') : s.generators.size ≤ s'.generators.size := by
  obtain ⟨_, new, _, rfl⟩ := h
  rw [Array.size_append]
  exact Nat.le_add_right ..

theorem spares {L : Listener → Prop} {T C : Nat → Prop} (h : s.Makes s') : s.Spares L T C s' where
  future w f known := by
    obtain ⟨_, _, _, rfl⟩ := h
    exact ⟨f, known, .refl f⟩
  told x w _ told := by
    obtain ⟨_, _, _, rfl⟩ := h
    exact told
  coroutine c k known :=
    ⟨k, (h.coroutine (Array.getElem?_eq_some_iff.mp known).1).trans known, .refl k⟩

/-- Making things is no business of any stream. -/
theorem outside {l : EventLoop} (h : l.store.Makes s') (id : Nat) (g : Ledger)
    (waiting : ∀ p ∈ l.waiting, p.1 < l.store.futures.size) : Outside id g l { l with store := s' } where
  stream := by
    obtain ⟨_, _, _, same⟩ := h
    rw [same]
  spares := h.spares
  lookup _ _ := rfl
  waiting := by
    obtain ⟨_, _, _, same⟩ := h
    rw [same]
    exact waiting

end Makes

end Store

/-- The chunk `v` made from `s` to `s'` stands for one thing written. -/
def Written.StoodBy (s s' : Store) : Written → Value → Prop
  | .chunk u, v => v = u
  | .items iterable conversion, v => ∃ i, v = .process .asyncGenerator i ∧
      s.generators.size ≤ i ∧ s'.generators[i]? = some { body := .convert iterable none conversion }
  | .result awaitable conversion, v => ∃ w, v = .process .coroutine w ∧ s.coroutines.size ≤ w ∧
      s'.coroutines[w]? = some { body := .convert awaitable conversion }

section

variable {s s' s₀ s₁ : Store} {w : Written} {v : Value}

theorem Written.StoodBy.mono (h : w.StoodBy s s' v) (before : s₀.Makes s) (after : s'.Makes s₁) :
    w.StoodBy s₀ s₁ v := by
  cases w with
  | chunk => exact h
  | items iterable conversion =>
    obtain ⟨i, rfl, new, known⟩ := h
    refine ⟨i, rfl, Nat.le_trans before.generators_le new, ?_⟩
    exact (after.generator (Array.getElem?_eq_some_iff.mp known).1).trans known
  | result awaitable conversion =>
    obtain ⟨n, rfl, new, known⟩ := h
    refine ⟨n, rfl, Nat.le_trans before.size_le new, ?_⟩
    exact (after.coroutine (Array.getElem?_eq_some_iff.mp known).1).trans known

theorem Written.realize_makes (w : Written) (s : Store) :
    s.Makes (w.realize.run s).2 ∧ w.StoodBy s (w.realize.run s).2 (w.realize.run s).1 := by
  cases w with
  | chunk v => exact ⟨.refl s, rfl⟩
  | items iterable conversion =>
    exact ⟨.newGenerator _ s, _, rfl, Nat.le_refl _, Array.getElem?_push_size⟩
  | result awaitable conversion =>
    exact ⟨.newCoroutine _ s, _, rfl, Nat.le_refl _, Array.getElem?_push_size⟩

/-- Several things written are made one after the other. -/
theorem Written.realizeAll_makes (ws : List Written) (s : Store) :
    s.Makes ((ws.mapM Written.realize).run s).2 ∧
      List.Forall₂ (Written.StoodBy s ((ws.mapM Written.realize).run s).2) ws
        ((ws.mapM Written.realize).run s).1 := by
  induction ws generalizing s with
  | nil => exact ⟨.refl s, .nil⟩
  | cons w ws ih =>
    rw [List.mapM_cons]
    obtain ⟨makes, stood⟩ := w.realize_makes s
    obtain ⟨makes', stood'⟩ := ih (w.realize.run s).2
    refine ⟨makes.trans makes', .cons (stood.mono (.refl s) makes') ?_⟩
    exact stood'.imp fun _ _ stood => stood.mono makes (.refl _)

end

/-! ### The chunk of a tag -/

/-- The values that an output tag writes: a raw one takes a list or a tuple apart. -/
def Heap.writtenValues (heap : Heap) (escaped : Bool) (v : Value) : List Value :=
  if escaped then [v] else heap.chunkMembers v

/-- How an output tag of a render turns values into chunks. -/
def Render.conversion (r : Render) (escaped : Bool) : Conversion :=
  if escaped then .escaped r.template.options.escape else .raw

/-- The chunk that an output tag makes of its value. -/
def Render.chunk (r : Render) (escaped : Bool) (v : Value) : Act Value :=
  if escaped then escapedChunk r.template.options.escape v else rawChunk v

/-- What an output tag does with its value. -/
def Render.write (r : Render) (escaped : Bool) (v : Value) : Act Unit := do
  pushChunk r.stream (← r.chunk escaped v)

section

variable {heap : Heap} {v u : Value} {s s' : Store} {c : Nat}

theorem isLiteral_of_literal (h : heap.literal v = .ok u) : u.isLiteral := by
  have text {t : Except Fault String} (h : Value.text <$> t = .ok u) : u.isLiteral := by
    cases t <;> cases h
    rfl
  unfold Heap.literal at h
  split at h
  · cases h
    rfl
  · split at h
    next literal =>
      cases h
      exact literal
    next => exact text h

/-- What is written at once is a literal. -/
theorem isLiteral_of_writeMember (h : writeMember heap v = .ok (.chunk u)) : u.isLiteral := by
  have literal {x : Except Fault Value} (made : x = heap.literal v)
      (h : Written.chunk <$> x = .ok (.chunk u)) : u.isLiteral := by
    cases x with
    | error => cases h
    | ok a =>
      cases h
      exact isLiteral_of_literal made.symm
  unfold writeMember Conversion.write at h
  split_ifs at h with _ plain
  · exact literal rfl h
  · cases h
    exact (Bool.and_eq_true_iff.mp plain).1
  · cases h
  · cases h
  · exact literal rfl h

theorem forall₂_of_mapM {α β : Type} {f : α → Except Fault β} {as : List α} {bs : List β}
    (h : as.mapM f = .ok bs) : List.Forall₂ (fun a b => f a = .ok b) as bs := by
  induction as generalizing bs with
  | nil =>
    cases h
    exact .nil
  | cons a as ih =>
    rw [List.mapM_cons] at h
    cases first : f a with
    | error => simp [first, bind, Except.bind] at h
    | ok b =>
      cases rest : as.mapM f with
      | error => simp [first, rest, bind, Except.bind] at h
      | ok bs =>
        simp only [first, rest, bind, Except.bind, pure, Except.pure] at h
        cases h
        exact .cons first (ih rest)

theorem forall₂_comp {α β γ : Type} {R : α → β → Prop} {S : β → γ → Prop} {as : List α} {bs : List β}
    {cs : List γ} (first : List.Forall₂ R as bs) (second : List.Forall₂ S bs cs) :
    List.Forall₂ (fun a c => ∃ b, R a b ∧ S b c) as cs := by
  induction first generalizing cs with
  | nil =>
    cases second
    exact .nil
  | cons here _ ih =>
    obtain _ | ⟨there, rest⟩ := second
    exact .cons ⟨_, here, there⟩ (ih rest)

/-- From `s` to `s'` a chunk has been made of values: its coroutines are new, and one of them awaits `c`. -/
structure Wraps (s s' : Store) (conversion : Conversion) (c : Nat) (members : List Value) : Prop where
  makes : s.Makes s'
  new : ∀ k, .process .coroutine k ∈ members →
    s.coroutines.size ≤ k ∧ ∃ body, s'.coroutines[k]? = some { body }
  wrapper : ∃ w, .process .coroutine w ∈ members ∧
    s'.coroutines[w]? = some { body := .convert (.process .coroutine c) conversion }

theorem wraps_one (conversion : Conversion) (s : Store) (c : Nat) :
    Wraps s ((Store.newCoroutine (.convert (.process .coroutine c) conversion)).run s).2 conversion c
      [.process .coroutine s.coroutines.size] where
  makes := .newCoroutine _ s
  new k mem := by
    cases List.mem_singleton.mp mem
    exact ⟨Nat.le_refl _, _, Array.getElem?_push_size⟩
  wrapper := ⟨_, List.mem_singleton_self _, Array.getElem?_push_size⟩

theorem rawOutput_eq (heap : Heap) (v : Value) : rawOutput heap v =
    if v.isBatch then .batch <$> (heap.chunkMembers v).mapM (writeMember heap)
    else .one <$> Conversion.raw.write heap v := by
  cases v with
  | cell kind => cases kind <;> rfl
  | _ => rfl

theorem run_rawChunk (v : Value) (s : Store) :
    (rawChunk v).run.run s = match rawOutput s.heap v with
      | .error fault => (.error fault, s)
      | .ok output => output.realize.run.run s := by
  have viewed : (Act.view (rawOutput · v)).run.run s = (rawOutput s.heap v, s) := rfl
  unfold rawChunk
  rw [Act.run_bind, viewed]
  cases rawOutput s.heap v <;> rfl

/-- The list that a batch becomes has the things written as its members. -/
theorem run_realize_batch (ws : List Written) (s : Store) : ∃ id heap,
    (Output.batch ws).realize.run.run s = (.ok (.cell .list id),
      { ((ws.mapM Written.realize).run s).2 with heap }) ∧
      heap.chunkMembers (.cell .list id) = ((ws.mapM Written.realize).run s).1 := by
  have first : (Act.always (ws.mapM Written.realize)).run.run s =
      (.ok ((ws.mapM Written.realize).run s).1, ((ws.mapM Written.realize).run s).2) := rfl
  have both : (Output.batch ws).realize =
      Act.always (ws.mapM Written.realize) >>= fun members => Act.work (newList members.toArray) := rfl
  rw [both, Act.run_bind, first]
  refine ⟨_, _, rfl, ?_⟩
  simp [Heap.chunkMembers, Heap.list, Heap.cell?]

/-- A new coroutine is what stands for something that is to be awaited. -/
theorem Written.StoodBy.coroutine {w : Written} {part : Value} {k : Nat}
    (stood : w.StoodBy s s' (.process .coroutine k)) (written : writeMember heap part = .ok w) :
    s.coroutines.size ≤ k ∧ ∃ body, s'.coroutines[k]? = some { body } := by
  cases w with
  | chunk u =>
    have literal := isLiteral_of_writeMember written
    rw [← show Value.process .coroutine k = u from stood] at literal
    cases literal
  | items =>
    obtain ⟨i, other, -⟩ := stood
    cases other
  | result =>
    obtain ⟨_, ⟨⟩, new, known⟩ := stood
    exact ⟨new, _, known⟩

/-- From `s` to `s'` a raw tag has made something of each part of its value. -/
structure RawMembers (s s' : Store) (parts members : List Value) : Prop where
  makes : s.Makes s'
  stood : List.Forall₂ (fun part member => ∃ w, writeMember s.heap part = .ok w ∧ w.StoodBy s s' member)
    parts members

theorem RawMembers.new {parts members : List Value} (h : RawMembers s s' parts members) {k : Nat}
    (mem : .process .coroutine k ∈ members) :
    s.coroutines.size ≤ k ∧ ∃ body, s'.coroutines[k]? = some { body } := by
  obtain ⟨part, -, w, written, stood⟩ := exists_of_forall₂ h.stood mem
  exact stood.coroutine written

theorem rawMembers_of_batch {vs : List Value} {ws : List Written}
    (written : vs.mapM (writeMember s.heap) = .ok ws) :
    RawMembers s ((ws.mapM Written.realize).run s).2 vs ((ws.mapM Written.realize).run s).1 := by
  obtain ⟨makes, stood⟩ := Written.realizeAll_makes ws s
  exact ⟨makes, forall₂_comp (forall₂_of_mapM written) stood⟩

theorem chunkMembers_of_not_isBatch (single : ¬ v.isBatch) : heap.chunkMembers v = [v] := by
  cases v with
  | cell kind => cases kind <;> first | rfl | exact absurd rfl single
  | tuple => exact absurd rfl single
  | _ => rfl

/-- What is written for one thing is no batch. -/
theorem Written.StoodBy.chunkMembers {w : Written} {part member : Value} {heap' : Heap}
    (stood : w.StoodBy s s' member) (written : writeMember heap part = .ok w) :
    heap'.chunkMembers member = [member] := by
  cases w with
  | chunk u =>
    have literal := isLiteral_of_writeMember written
    obtain rfl : member = u := stood
    cases member with
    | cell kind => cases kind <;> first | rfl | cases literal
    | _ => first | rfl | cases literal
  | items =>
    obtain ⟨i, rfl, -⟩ := stood
    rfl
  | result =>
    obtain ⟨n, rfl, -⟩ := stood
    rfl

/-- A raw tag makes something of each part of its value. -/
theorem rawMembers_of_run {chunk : Value} (made : (rawChunk v).run.run s = (.ok chunk, s')) :
    RawMembers s s' (s.heap.chunkMembers v) (s'.heap.chunkMembers chunk) := by
  rw [run_rawChunk, rawOutput_eq] at made
  by_cases batch : v.isBatch
  · rw [if_pos batch] at made
    cases written : (s.heap.chunkMembers v).mapM (writeMember s.heap) with
    | error =>
      rw [written] at made
      cases made
    | ok ws =>
      obtain ⟨id, heap, realized, same⟩ := run_realize_batch ws s
      rw [written] at made
      cases realized.symm.trans made
      obtain ⟨makes, stood⟩ := rawMembers_of_batch written
      rw [same]
      refine ⟨makes.trans (.heap _ heap), stood.imp fun _ _ ⟨w, written, stood⟩ => ⟨w, written, ?_⟩⟩
      exact stood.mono (.refl s) (.heap _ heap)
  · have written : writeMember s.heap v = Conversion.raw.write s.heap v := if_neg batch
    rw [if_neg batch, ← written] at made
    cases written : writeMember s.heap v with
    | error =>
      rw [written] at made
      cases made
    | ok w =>
      have realized : (Output.one w).realize.run.run s =
        (.ok (w.realize.run s).1, (w.realize.run s).2) := rfl
      rw [written] at made
      cases realized.symm.trans made
      obtain ⟨makes, stood⟩ := w.realize_makes s
      rw [chunkMembers_of_not_isBatch batch, stood.chunkMembers written]
      exact ⟨makes, .cons ⟨w, written, stood⟩ .nil⟩

/-- A chunk that is made of values with the coroutine `c` among them wraps it. -/
theorem Render.wraps {r : Render} {escaped : Bool} {chunk : Value}
    (made : (r.chunk escaped v).run.run s = (.ok chunk, s'))
    (written : .process .coroutine c ∈ s.heap.writtenValues escaped v) :
    Wraps s s' (r.conversion escaped) c (s'.heap.chunkMembers chunk) := by
  cases escaped with
  | true =>
    cases List.mem_singleton.mp written
    cases (show (r.chunk true (.process .coroutine c)).run.run s = (.ok (.process .coroutine _), _) from
      rfl).symm.trans made
    exact wraps_one _ s c
  | false =>
    have members := rawMembers_of_run made
    refine ⟨members.makes, fun k mem => members.new mem, ?_⟩
    obtain ⟨member, mem, w, result, stood⟩ := exists_of_forall₂ members.stood.flip written
    cases (show writeMember s.heap (.process .coroutine c) =
      .ok (.result (.process .coroutine c) .raw) from rfl).symm.trans result
    obtain ⟨n, rfl, -, known⟩ := stood
    exact ⟨n, mem, known⟩

end

/-! ### The stream is fed -/

section

variable {id c : Nat} {l l' : EventLoop} {g g' : Ledger} {st st' : ChunkStream} {s s' : Store}
  {chunk : Value} {conversion : Conversion}

/-- The course of a stream when things are made, coroutines among them that are new, and pushed. -/
theorem Course.push_made (course : Course id l g) (makes : l.store.Makes s)
    (new : ∀ k, .process .coroutine k ∈ s.heap.chunkMembers chunk →
      l.store.coroutines.size ≤ k ∧ ∃ body, s.coroutines[k]? = some { body }) :
    Course id (({ l with store := s } : EventLoop).withStore (pushChunk id chunk).run).2
      (g.accept (s.heap.chunkMembers chunk)) := by
  refine course.push_new (makes.outside id g) fun k mem => ?_
  obtain ⟨unknown, _, known⟩ := new k mem
  exact ⟨unknown, (Array.getElem?_eq_some_iff.mp known).1⟩

namespace Wraps

theorem fresh {members : List Value} (h : Wraps s s' conversion c members) {k : Nat}
    (mem : .process .coroutine k ∈ members) : s'.coroutineState k = .created := by
  obtain ⟨-, body, known⟩ := h.new k mem
  rw [Store.coroutineState, known]
  rfl

/-- The course of the stream when a chunk has been made and is pushed. -/
theorem course (h : Wraps l.store s conversion c (s.heap.chunkMembers chunk)) (course : Course id l g) :
    Course id (({ l with store := s } : EventLoop).withStore (pushChunk id chunk).run).2
      (g.accept (s.heap.chunkMembers chunk)) :=
  course.push_made h.makes h.new

/-- Pushing the chunk does nothing to other coroutines, and it closes the new ones if the stream takes no
more input. -/
theorem pushed (h : Wraps l.store s conversion c (s.heap.chunkMembers chunk))
    (stream : l.store.streams[id]? = some st)
    (push : (({ l with store := s } : EventLoop).withStore (pushChunk id chunk).run).2 = l') :
    (∀ k < l.store.coroutines.size, l'.store.coroutineState k = l.store.coroutineState k) ∧
      (st.closed = true → ∀ k, .process .coroutine k ∈ s.heap.chunkMembers chunk →
        l'.store.coroutineState k = .closed) ∧
      ∀ k b, s.bodyOf k = some b → l'.store.bodyOf k = some b := by
  have stream' : s.streams[id]? = some st := by
    obtain ⟨_, _, _, rfl⟩ := h.makes
    exact stream
  obtain ⟨r, st', s', does⟩ : ∃ r st' s', (ChunkStream.push (Store.surroundings id)
    (s.heap.chunkMembers chunk)).does st s = (r, st', s') := ⟨_, _, _, rfl⟩
  let op (host : Surroundings (StateM Store)) : StreamM (StateM Store) Unit :=
    ChunkStream.push host (s.heap.chunkMembers chunk)
  have run : ({ l with store := s } : EventLoop).withStore (Store.onStream id op).run = _ :=
    Standing.withStore_onStream stream' does
  have push : (({ l with store := s } : EventLoop).withStore (Store.onStream id op).run).2 = l' := push
  rw [run] at push
  subst push
  have pushes := ChunkStream.pushes_of_does does
  have made (k : Nat) (lt : k < l.store.coroutines.size) :
      s.coroutineState k = l.store.coroutineState k :=
    (h.makes.spares (L := fun _ => False) (T := fun _ => False) (C := fun _ => True)).coroutineState lt trivial
  refine ⟨fun k lt => ?_, fun closed k mem => ?_, fun k b body => ?_⟩
  · show s'.coroutineState k = _
    rw [← made k lt]
    cases pushes with
    | dropped =>
      have spares := Store.spares_disposal (L := fun _ => False) (T := fun _ => False)
        (C := fun k => k < l.store.coroutines.size) (s.heap.chunkMembers chunk) s
        fun k mem old => absurd (h.new k mem).1 (Nat.not_le_of_lt old)
      exact spares.coroutineState (Nat.lt_of_lt_of_le lt h.makes.size_le) lt
    | refused | nothing => rfl
    | taken => rw [Store.coroutineState, Store.coroutines_woken]; rfl
  · show s'.coroutineState k = _
    have through : (Store.disposal (s.heap.chunkMembers chunk) s).1 = .ok () := by
      refine Store.disposal_of_free fun k mem => ?_
      rw [h.fresh mem]
      nofun
    have disposed := ChunkStream.does_push id st s (s.heap.chunkMembers chunk)
    rw [if_pos closed] at disposed
    cases does.symm.trans disposed
    exact (Store.closed_of_disposal (Prod.ext through rfl)).2 mem
  · exact Store.Grows.bodyOf pushes.grows body

end Wraps

/-- When a stream is torn down, what has been queued is closed, once and for all, and a coroutine that
neither was queued nor belongs to a pull stays created if it was. -/
theorem Course.left_created (course : Course id l g) (happens : Happens id l g l' g')
    (stream : l.store.streams[id]? = some st) (stream' : l'.store.streams[id]? = some st')
    (going : st.phase ≠ .errored) (torn : st'.phase = .errored) :
    (∀ w, .process .coroutine w ∈ st.queued → l'.store.coroutineState w = .closed ∧
      (l.Orderly → ∀ l₁, l'.Later l₁ → l₁.store.coroutineState w = .closed)) ∧
    ∀ c, l.store.coroutineState c = .created → .process .coroutine c ∉ st.queued →
      ¬ g.Coroutines c → l'.store.coroutineState c = .created := by
  obtain ⟨down, undisturbed, after, there⟩ := course.tearsDown happens stream stream' going torn
  constructor
  · refine fun w mem => ⟨down.closed w mem, fun orderly => ?_⟩
    exact ((after orderly).closed (there w mem) (down.closed w mem)).1
  · intro c created other own
    have there : c < l.store.coroutines.size := Store.lt_of_not_closed (by rw [created]; nofun)
    rw [undisturbed.spares.coroutineState there ⟨own, other⟩, created]

/-- A coroutine that is the value of an output tag, or a member of a list or tuple written by a raw tag, is
not itself what the stream is given: that is a new coroutine `w`, which is to await it. A stream that takes
no more input closes `w` at once; one that is torn down closes it if its turn has not come by then. Neither
does anything to the coroutine that was written, so if it has not been started it is left created. -/
theorem Render.written_left_created {r : Render} {escaped : Bool} {v : Value}
    (course : Course r.stream l g) (stream : l.store.streams[r.stream]? = some st)
    (made : (r.chunk escaped v).run.run l.store = (.ok chunk, s))
    (written : .process .coroutine c ∈ l.store.heap.writtenValues escaped v)
    (unstarted : l.store.coroutineState c = .created)
    (writes : (l.withStore (r.write escaped v).run).2 = l') :
    (∀ e context, (Rendering.machine e r context).output escaped v = Eval.act (r.write escaped v)) ∧
    Course r.stream l' (g.accept (s.heap.chunkMembers chunk)) ∧
    l'.store.coroutineState c = .created ∧
    ∃ w, .process .coroutine w ∈ s.heap.chunkMembers chunk ∧ l.store.coroutines.size ≤ w ∧
      l'.store.bodyOf w = some (.convert (.process .coroutine c) (r.conversion escaped)) ∧
      (st.closed = true → l'.store.coroutineState w = .closed) ∧
      ∀ l₁ g₁ st₁ l₂ g₂ st₂, Onward r.stream l' (g.accept (s.heap.chunkMembers chunk)) l₁ g₁ →
        l₁.store.streams[r.stream]? = some st₁ → Happens r.stream l₁ g₁ l₂ g₂ →
        l₂.store.streams[r.stream]? = some st₂ → st₁.phase ≠ .errored → st₂.phase = .errored →
        (.process .coroutine w ∈ st₁.queued → l₂.store.coroutineState w = .closed ∧
          (l₁.Orderly → ∀ l₃, l₂.Later l₃ → l₃.store.coroutineState w = .closed)) ∧
        (l₁.store.coroutineState c = .created → .process .coroutine c ∉ st₁.queued →
          ¬ g₁.Coroutines c → l₂.store.coroutineState c = .created) := by
  have wraps := Render.wraps made written
  have run : (l.withStore (r.write escaped v).run).2 =
      (({ l with store := s } : EventLoop).withStore (pushChunk r.stream chunk).run).2 := by
    have loop : (l.withStore (r.write escaped v).run).2 =
        { l with store := ((r.write escaped v).run.run l.store).2 } := rfl
    rw [loop, Render.write, Act.run_bind, made]
    rfl
  rw [run] at writes
  have appended := wraps.course course
  obtain ⟨others, late, bodies⟩ := wraps.pushed stream writes
  rw [writes] at appended
  obtain ⟨w, mem, known⟩ := wraps.wrapper
  have there : c < l.store.coroutines.size := Store.lt_of_not_closed (by rw [unstarted]; nofun)
  refine ⟨fun _ _ => ?_, appended, (others c there).trans unstarted, w, mem, (wraps.new w mem).1, ?_,
    fun closed => late closed w mem, ?_⟩
  · cases escaped <;> rfl
  · exact bodies w _ (by rw [Store.bodyOf, known]; rfl)
  · intro l₁ g₁ st₁ l₂ g₂ st₂ onward stream₁ happens stream₂ going torn
    obtain ⟨closes, leaves⟩ :=
      (onward.course appended).left_created happens stream₁ stream₂ going torn
    exact ⟨closes w, leaves c⟩

/-- A coroutine written by a raw tag to a stream that is aborted then is left created. -/
theorem Render.aborted_left_created : ∃ l l' g, Course 0 l g ∧
    (l.withStore (Store.onStream 0 (ChunkStream.abort · none)).run).2 = l' ∧
    l'.store.coroutineState 1 = .closed ∧ l'.store.coroutineState 0 = .created := by
  have opened : Course 0 _ _ :=
    .start (l := { store := { coroutines := #[{ body := .script [] }] } }) rfl nofun
  have written : .process .coroutine 0 ∈ ({} : Heap).writtenValues false (.process .coroutine 0) := .head _
  obtain ⟨-, appended, unstarted, w, mem, -, -, -, teardown⟩ :=
    Render.written_left_created (r := .blank) opened rfl rfl written rfl rfl
  cases List.mem_singleton.mp mem
  obtain ⟨closed, left⟩ := teardown _ _ _ _ _ _ .here rfl (.abort none) rfl nofun rfl
  have other : Value.process .coroutine 0 ∉ [Value.process .coroutine 1] :=
    fun mem => nomatch List.mem_singleton.mp mem
  exact ⟨_, _, _, appended, rfl, (closed (.head _)).1, left unstarted other nofun⟩

end

end StreamTemplate
