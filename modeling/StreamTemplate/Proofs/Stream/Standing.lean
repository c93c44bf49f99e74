import StreamTemplate.Proofs.Stream.Course

/-!
# Where a stream stands

Whatever course a stream takes, at most one of its calls waits: for the waiter of the stream, of
which it will be told. All others are away. A call that waits in vain has a reason to, unless an
abort failed meanwhile.
-/

namespace StreamTemplate

open Pull (Call Turn)
open ChunkStream (Attentive SamePull)

/-- The stream has let go of its source and is still draining. -/
def ChunkStream.Torn (st : ChunkStream) : Prop :=
  st.phase = .draining ∧ st.inflight = none

/-- Why a pull waits for the future `w`. -/
structure Excuse (id : Nat) (g : Ledger) (st : ChunkStream) (s : Store) (w : Nat) : Prop where
  alert : w ∉ g.deserted → st.Alert id s
  torn : w ∈ g.deserted → st.Torn

theorem Excuse.spared {id : Nat} {g g' : Ledger} {st : ChunkStream} {s s' : Store} {w : Nat}
    (h : Excuse id g st s w) (deserted : g'.deserted = g.deserted)
    (told : ∀ w, st.inflight = some w → s.Told (.stream id) w → s'.Told (.stream id) w) :
    Excuse id g' st s' w :=
  ⟨fun kept => (h.alert (deserted ▸ kept)).spared told, fun left => h.torn (deserted ▸ left)⟩

/-- Which call waits, if any. -/
inductive Holder (id : Nat) (l : EventLoop) (g : Ledger) (st : ChunkStream) : Prop where
  | nobody (waiter : st.waiter = none) (away : ∀ a ∈ g.calls, a.Away l)
  | somebody {a : Call} {w rounds : Nat} (call : a ∈ g.calls) (waiter : st.waiter = some w)
      (pulling : st.pulling = true) (waits : a.Waits id w rounds l)
      (away : ∀ b ∈ g.calls, b ≠ a → b.Away l)
      (excuse : l.store.isPending w → Excuse id g st l.store w)

/-- Where the stream `id` stands. -/
structure Standing (id : Nat) (l : EventLoop) (g : Ledger) (st : ChunkStream) : Prop where
  stream : l.store.streams[id]? = some st
  placed : ∀ a ∈ g.calls, a.Placed id l.store
  tasks : ∀ a ∈ g.calls, ∀ b ∈ g.calls, a.task = b.task → a = b
  coroutines : ∀ a ∈ g.calls, ∀ b ∈ g.calls, a.coroutine = b.coroutine → a = b
  waiting : ∀ p ∈ l.waiting, p.1 < l.store.futures.size
  foreign : ∀ c, .process .coroutine c ∈ st.queued →
    c < l.store.coroutines.size ∧ ¬ g.Coroutines c
  calm : st.Calm
  attentive : Attentive id st l.store
  deserted : ∀ w ∈ g.deserted, w < l.store.futures.size
  holder : Holder id l g st

namespace Ledger

theorem calls_accept (g : Ledger) (members : List Value) : (g.accept members).calls = g.calls := by
  unfold accept
  split <;> rfl

theorem deserted_accept (g : Ledger) (members : List Value) :
    (g.accept members).deserted = g.deserted := by
  unfold accept
  split <;> rfl

end Ledger

namespace Standing

variable {id : Nat} {l l' : EventLoop} {g g' : Ledger} {st st' : ChunkStream}

/-- A call's task is a task, and a waiter is none. -/
theorem waiter_ne (h : Standing id l g st) {w : Nat} (waiter : st.waiter = some w) : ¬ g.Tasks w := by
  rintro ⟨b, hb, rfl⟩
  cases h.holder with
  | nobody none => rw [none] at waiter; cases waiter
  | somebody _ some _ waits =>
    cases some.symm.trans waiter
    obtain ⟨τ, task, -⟩ := (h.placed b hb).task
    rw [waits.plain] at task
    cases task

/-- A change that leaves the calls alone. -/
theorem change (h : Standing id l g st) (stream : l'.store.streams[id]? = some st')
    (calls : g'.calls = g.calls)
    {L : Listener → Prop} {T C : Nat → Prop} (spares : l.store.Spares L T C l'.store)
    (keeps : ∀ a ∈ g.calls, a.Keeps l l') (waiting : ∀ p ∈ l'.waiting, p.1 < l'.store.futures.size)
    (foreign : ∀ c, .process .coroutine c ∈ st'.queued →
      c < l.store.coroutines.size ∧ ¬ g.Coroutines c)
    (calm : st'.Calm) (attentive : Attentive id st' l'.store)
    (deserted : ∀ w ∈ g'.deserted, w < l'.store.futures.size) (pull : st.SamePull st')
    (excuse : ∀ w, st.waiter = some w → l'.store.isPending w → Excuse id g' st' l'.store w) :
    Standing id l' g' st' where
  stream := stream
  placed a ha := (h.placed a (calls ▸ ha)).spared spares
  tasks := by
    rw [calls]
    exact h.tasks
  coroutines := by
    rw [calls]
    exact h.coroutines
  waiting := waiting
  foreign c hc := by
    obtain ⟨lt, other⟩ := foreign c hc
    refine ⟨Nat.lt_of_lt_of_le lt spares.coroutines, ?_⟩
    unfold Ledger.Coroutines
    rwa [calls]
  calm := calm
  attentive := attentive
  deserted := deserted
  holder := by
    cases h.holder with
    | nobody waiter all =>
      refine .nobody (pull.1.trans waiter) fun a ha => ?_
      rw [calls] at ha
      exact (all a ha).kept (keeps a ha)
    | @somebody a w rounds call waiter pulling waits others =>
      refine .somebody (calls ▸ call) (pull.1.trans waiter) (pull.2.trans pulling)
        (waits.kept (keeps a call) spares) (fun b hb ne => ?_) (excuse w waiter)
      rw [calls] at hb
      exact (others b hb ne).kept (keeps b hb)

theorem lt_waiter (h : Standing id l g st) {w : Nat} (waiter : st.waiter = some w) :
    w < l.store.futures.size := by
  cases h.holder with
  | nobody none => rw [none] at waiter; cases waiter
  | somebody _ some _ waits =>
    cases some.symm.trans waiter
    exact waits.told.lt_size

theorem excuse (h : Standing id l g st) {w : Nat} (waiter : st.waiter = some w)
    (pending : l.store.isPending w) : Excuse id g st l.store w := by
  cases h.holder with
  | nobody none => rw [none] at waiter; cases waiter
  | somebody _ some _ _ _ excuse =>
    cases some.symm.trans waiter
    exact excuse pending

theorem keeps (h : Standing id l g st)
    (spares : l.store.Spares g.Listeners g.Tasks g.Coroutines l'.store)
    (lookup : ∀ a ∈ g.calls, l'.waiting.lookup a.task = l.waiting.lookup a.task) :
    ∀ a ∈ g.calls, a.Keeps l l' := fun a ha =>
  .of_spares (h.placed a ha) spares ⟨a, ha, rfl⟩ ⟨a, ha, rfl⟩ ⟨a, ha, rfl⟩ (lookup a ha)

/-- A stream that fails lets go of its source and closes what is queued. -/
theorem disposed (h : Standing id l g st) {r : Except Fault Unit} {s' : Store}
    (disposed : Store.disposal (st.queue.toList.map (·.value)) (l.store.unheard id st.inflight) =
      (r, s')) :
    s'.streams = l.store.streams ∧ l.store.Spares g.Listeners g.Tasks g.Coroutines s' := by
  have apart : ChunkStream.Apart id st.queued l.store s' :=
    (ChunkStream.Apart.unheard ..).trans (.disposal disposed)
  refine ⟨apart.streams, apart.spares.mono ?_ (fun _ _ => trivial) fun c hc queued => ?_⟩
  · rintro x ⟨a, ha, rfl⟩
    nofun
  · exact (h.foreign c queued).2 hc

/-! ### The steps of a course -/

theorem start {l : EventLoop} (new : l.store.streams.size = id)
    (waiting : ∀ p ∈ l.waiting, p.1 < l.store.futures.size) :
    Standing id { l with store := { l.store with streams := l.store.streams.push {} } } {} {} where
  stream := by
    rw [← new]
    exact Array.getElem?_push_size
  placed := nofun
  tasks := nofun
  coroutines := nofun
  waiting := waiting
  foreign := nofun
  calm := fun _ => rfl
  attentive := .of_none rfl
  deserted := nofun
  holder := .nobody rfl nofun

theorem outside (h : Standing id l g st) (change : Outside id g l l') : Standing id l' g st := by
  have alert (w : Nat) (told : l.store.Told (.stream id) w) : l'.store.Told (.stream id) w :=
    change.spares.told _ _ (.inl rfl) told
  have spares : l.store.Spares g.Listeners g.Tasks g.Coroutines l'.store :=
    change.spares.mono (fun _ hx => .inr hx) (fun _ h => h) fun _ h => h
  refine h.change (change.stream.trans h.stream) rfl spares (h.keeps spares change.lookup)
    change.waiting h.foreign h.calm (fun w inflight => ?_) (fun w hw => ?_) ⟨rfl, rfl⟩
    fun w waiter pending => ?_
  · obtain ⟨lt, told⟩ := h.attentive w inflight
    exact ⟨Nat.lt_of_lt_of_le lt spares.futures, fun pending => alert w (told (spares.isPending lt pending))⟩
  · exact Nat.lt_of_lt_of_le (h.deserted w hw) spares.futures
  · have before := spares.isPending (h.lt_waiter waiter) pending
    exact (h.excuse waiter before).spared rfl fun w _ => alert w

/-- Something is done on the stream that leaves its pull waiting or wakes it. -/
theorem operation (h : Standing id l g st) {s' : Store} (calls : g'.calls = g.calls)
    (streams : s'.streams = l.store.streams)
    (spares : l.store.Spares g.Listeners g.Tasks g.Coroutines s')
    (foreign : ∀ c, .process .coroutine c ∈ st'.queued →
      c < l.store.coroutines.size ∧ ¬ g.Coroutines c)
    (calm : st'.Calm) (attentive : Attentive id st' s')
    (deserted : ∀ w ∈ g'.deserted, w ∈ g.deserted ∨ st.waiter = some w) (pull : st.SamePull st')
    (excuse : ∀ w, st.waiter = some w → s'.isPending w → Excuse id g' st' s' w) :
    Standing id { l with store := s'.setStream id st' } g' st' := by
  have stored : s'.Spares g.Listeners g.Tasks g.Coroutines (s'.setStream id st') :=
    .of_same rfl rfl rfl
  refine h.change (Store.streams_setStream _ ?_) calls (spares.trans stored)
    (h.keeps (spares.trans stored) fun _ _ => rfl) (fun p hp => ?_) foreign calm attentive
    (fun w hw => ?_) pull fun w waiter pending => (excuse w waiter pending).spared rfl fun _ _ told => told
  · rw [streams]
    exact (Array.getElem?_eq_some_iff.mp h.stream).1
  · exact Nat.lt_of_lt_of_le (h.waiting p hp) spares.futures
  · refine Nat.lt_of_lt_of_le ?_ spares.futures
    rcases deserted w hw with old | waiter
    · exact h.deserted w old
    · exact h.lt_waiter waiter

theorem withStore_onStream {α : Type} (h : l.store.streams[id]? = some st)
    {op : Surroundings (StateM Store) → StreamM (StateM Store) α} {r : Except Fault α} {s' : Store}
    (does : (op (Store.surroundings id)).does st l.store = (r, st', s')) :
    l.withStore (Store.onStream id op).run = (r, { l with store := s'.setStream id st' }) := by
  have run := Store.run_onStream op h
  rw [does] at run
  unfold EventLoop.withStore
  have run' : StateT.run (Store.onStream id op).run l.store = (r, s'.setStream id st') := run
  rw [run']

/-- Nothing happens to the stream. -/
theorem untouched (h : Standing id l g st) {s' : Store} (calls : g'.calls = g.calls)
    (deserted : g'.deserted = g.deserted) (streams : s'.streams = l.store.streams)
    (spares : l.store.Spares (fun _ => True) (fun _ => True) g.Coroutines s') :
    Standing id { l with store := s'.setStream id st } g' st := by
  have spares' : l.store.Spares g.Listeners g.Tasks g.Coroutines s' :=
    spares.mono (fun _ _ => trivial) (fun _ _ => trivial) fun _ h => h
  have told (w : Nat) : l.store.Told (.stream id) w → s'.Told (.stream id) w :=
    spares.told _ _ trivial
  refine h.operation calls streams spares' h.foreign h.calm (fun w inflight => ?_)
    (fun w hw => .inl (deserted ▸ hw)) ⟨rfl, rfl⟩ fun w waiter pending => ?_
  · obtain ⟨lt, listens⟩ := h.attentive w inflight
    exact ⟨Nat.lt_of_lt_of_le lt spares.futures,
      fun pending => told w (listens (spares.isPending lt pending))⟩
  · have before := h.excuse waiter (spares.isPending (h.lt_waiter waiter) pending)
    exact before.spared deserted fun w _ => told w

/-- The stream wakes its pull. -/
theorem awake (h : Standing id l g st) (calls : g'.calls = g.calls)
    (foreign : ∀ c, .process .coroutine c ∈ st'.queued →
      c < l.store.coroutines.size ∧ ¬ g.Coroutines c)
    (calm : st'.Calm) (inflight : st'.inflight = st.inflight)
    (deserted : g'.deserted = g.deserted) (pull : st.SamePull st') :
    Standing id { l with store := (l.store.woken st.waiter).setStream id st' } g' st' := by
  have spares : l.store.Spares (fun _ => True) g.Tasks (fun _ => True) (l.store.woken st.waiter) :=
    Store.spares_woken _ fun w waiter => h.waiter_ne waiter
  refine h.operation calls ?_ (spares.mono (fun _ _ => trivial) (fun _ h => h) fun _ _ => trivial)
    foreign calm (fun w hw => ?_) (fun w hw => .inl (deserted ▸ hw)) pull fun w waiter pending => ?_
  · exact Store.streams_woken ..
  · obtain ⟨lt, listens⟩ := h.attentive w (inflight ▸ hw)
    exact ⟨Nat.lt_of_lt_of_le lt spares.futures,
      fun pending => spares.told _ _ trivial (listens (spares.isPending lt pending))⟩
  · rw [waiter] at pending
    exact absurd pending (Store.not_isPending_woken _ _)

theorem push (h : Standing id l g st) {members : List Value} {s' : Store}
    (pushes : ChunkStream.Pushes members st l.store st' s')
    (foreign : ∀ c, .process .coroutine c ∈ members →
      c < l.store.coroutines.size ∧ ∀ a ∈ g.calls, a.coroutine ≠ c) :
    Standing id { l with store := s'.setStream id st' } (g.accept members) st' := by
  have other (c : Nat) (hc : .process .coroutine c ∈ members) : ¬ g.Coroutines c := by
    rintro ⟨a, ha, rfl⟩
    exact (foreign _ hc).2 a ha rfl
  cases pushes with
  | dropped closed =>
    obtain ⟨coroutines, eq⟩ := Store.disposal_eq members l.store
    refine h.untouched (g.calls_accept members) (g.deserted_accept members) (by rw [eq]) ?_
    exact Store.spares_disposal _ _ other
  | refused | nothing =>
    exact h.untouched (g.calls_accept members) (g.deserted_accept members) rfl (.refl _)
  | @taken sources _ flat =>
    refine h.awake (g.calls_accept members) (fun c hc => ?_) h.calm rfl
      (g.deserted_accept members) ⟨rfl, rfl⟩
    simp only [ChunkStream.queued, Queue.toList_append, List.map_append, List.mem_append] at hc
    rcases hc with old | new
    · exact h.foreign c old
    · obtain ⟨source, mem, value⟩ := List.mem_map.mp new
      have hc := ChunkStream.mem_of_flatten flat mem
      rw [value] at hc
      exact ⟨(foreign c hc).1, other c hc⟩

theorem close (h : Standing id l g st) {fault : Option Fault} {s' : Store}
    (closes : ChunkStream.Closes fault st l.store st' s') :
    Standing id { l with store := s'.setStream id st' } (g.close fault) st' := by
  cases closes with
  | again => exact h.untouched rfl rfl rfl (.refl _)
  | first => exact h.awake rfl h.foreign h.calm rfl rfl ⟨rfl, rfl⟩

theorem abort (h : Standing id l g st) {fault : Fault} {r : Except Fault Unit} {s' : Store}
    (aborts : ChunkStream.Aborts id fault st l.store r st' s') :
    Standing id { l with store := s'.setStream id st' } (g.abort st.waiter r) st' := by
  cases aborts with
  | late => exact h.untouched rfl rfl rfl (.refl _)
  | @through s₁ live disposed =>
    have spares := h.disposed disposed
    have woken : s₁.Spares (fun _ => True) g.Tasks (fun _ => True) (s₁.woken st.waiter) :=
      Store.spares_woken _ fun w waiter => h.waiter_ne waiter
    refine h.operation rfl ?_ (spares.2.trans (woken.mono (fun _ _ => trivial) (fun _ h => h)
      fun _ _ => trivial)) nofun (fun _ => rfl) (.of_none rfl) (fun w hw => .inl hw) ⟨rfl, rfl⟩
      fun w waiter pending => ?_
    · rw [Store.streams_woken, spares.1]
    · rw [waiter] at pending
      exact absurd pending (Store.not_isPending_woken _ _)
  | cutShort live disposed =>
    obtain ⟨streams, spares⟩ := h.disposed disposed
    refine h.operation rfl streams spares h.foreign (fun _ => rfl) (.of_none rfl) (fun w hw => ?_)
      ⟨rfl, rfl⟩ fun w waiter pending => ⟨fun kept => ?_, fun _ => ⟨?_, rfl⟩⟩
    · rcases List.mem_append.mp hw with new | old
      · exact .inr (Option.mem_toList.mp new)
      · exact .inl old
    · exact absurd (List.mem_append_left _ (Option.mem_toList.mpr waiter)) kept
    · -- An idle stream whose pull is not awake has nothing queued that could not be closed.
      have excuse := h.excuse waiter (spares.isPending (h.lt_waiter waiter) pending)
      by_cases left : w ∈ g.deserted
      · exact (excuse.torn left).1
      · rcases excuse.alert left with ⟨-, -, queue⟩ | ⟨draining, -⟩
        · rw [queue] at disposed
          cases disposed
        · exact draining

theorem notice (h : Standing id l g st) {w : Nat} {s s' : Store}
    (next : l.store.dequeue = some (.notice id w, s))
    (notices : ChunkStream.Notices w st s s') :
    Standing id { l with store := s'.setStream id st } g st := by
  have taken : l.store.Spares g.Listeners g.Tasks g.Coroutines s := by
    refine Store.spares_dequeue next ?_
    rintro x w' ⟨a, ha, rfl⟩
    nofun
  have woken : s.Spares (fun _ => True) g.Tasks (fun _ => True) s' := by
    cases notices with
    | own => exact Store.spares_woken _ fun w waiter => h.waiter_ne waiter
    | other => exact .refl s
  have spares := taken.trans (woken.mono (fun _ _ => trivial) (fun _ h => h) fun _ _ => trivial)
  obtain ⟨ready, eq, -⟩ := Store.dequeue_eq next
  have streams : s'.streams = l.store.streams := by
    have same : s.streams = l.store.streams := by rw [eq]
    cases notices with
    | own => rw [Store.streams_woken, same]
    | other => exact same
  refine h.operation rfl streams spares h.foreign h.calm (fun f inflight => ?_)
    (fun w hw => .inl hw) ⟨rfl, rfl⟩ fun w' waiter pending => ?_
  · obtain ⟨lt, listens⟩ := h.attentive f inflight
    refine ⟨Nat.lt_of_lt_of_le lt spares.futures, fun pending => ?_⟩
    have before := spares.isPending lt pending
    exact woken.told _ _ trivial (Store.told_dequeue next (listens before) (.inl before))
  · cases notices with
    | own =>
      rw [waiter] at pending
      exact absurd pending (Store.not_isPending_woken _ _)
    | other inflight =>
      have before := h.excuse waiter (spares.isPending (h.lt_waiter waiter) pending)
      refine before.spared rfl fun f hf told => Store.told_dequeue next told (.inr ?_)
      rintro ⟨⟩
      exact inflight hf

/-- The loop changes beside the stream. -/
theorem aside (h : Standing id l g st) {L : Listener → Prop} {T C : Nat → Prop}
    (streams : l'.store.streams = l.store.streams) (waiting : l'.waiting = l.waiting)
    (spares : l.store.Spares L T C l'.store) (listens : L (.stream id))
    (keeps : ∀ a ∈ g.calls, a.Keeps l l') : Standing id l' g st := by
  have told (w : Nat) : l.store.Told (.stream id) w → l'.store.Told (.stream id) w :=
    spares.told _ _ listens
  refine h.change (by rw [streams]; exact h.stream) rfl spares keeps (fun p hp => ?_) h.foreign
    h.calm (fun w inflight => ?_) (fun w hw => ?_) ⟨rfl, rfl⟩ fun w waiter pending => ?_
  · rw [waiting] at hp
    exact Nat.lt_of_lt_of_le (h.waiting p hp) spares.futures
  · obtain ⟨lt, listening⟩ := h.attentive w inflight
    exact ⟨Nat.lt_of_lt_of_le lt spares.futures,
      fun pending => told w (listening (spares.isPending lt pending))⟩
  · exact Nat.lt_of_lt_of_le (h.deserted w hw) spares.futures
  · exact (h.excuse waiter (spares.isPending (h.lt_waiter waiter) pending)).spared rfl fun w _ => told w

/-- What a call waits for is a plain future. -/
theorem plain_of_waiting (h : Standing id l g st) {a : Call} (call : a ∈ g.calls) {τ : TaskState}
    (task : l.store.task? a.task = some τ) {w : Nat} (waiting : τ.waiting = some w) :
    l.store.task? w = none := by
  cases h.holder with
  | nobody _ away =>
    have none := (away a call).waiting τ task
    rw [none] at waiting
    cases waiting
  | @somebody b v rounds _ _ _ waits away =>
    by_cases same : a = b
    · subst same
      have some := waits.waiting τ task
      rw [some] at waiting
      cases waiting
      exact waits.plain
    · have none := (away a call same).waiting τ task
      rw [none] at waiting
      cases waiting

/-- What becomes of a call that is cancelled. -/
theorem cancels (h : Standing id l g st) {a : Call} (call : a ∈ g.calls) :
    Pull.Cancels a.task l.store ((Store.cancel a.task).run l.store).2 := by
  obtain ⟨τ, task, -⟩ := (h.placed a call).task
  exact Pull.cancels task fun w waiting => h.plain_of_waiting call task waiting

theorem cancel (h : Standing id l g st) {a : Call} {s' : Store}
    (cancels : Pull.Cancels a.task l.store s') : Standing id { l with store := s' } g st := by
  cases cancels with
  | past => exact h
  | marked =>
    have spares : l.store.Spares (fun _ => True) (fun _ => False) (fun _ => True)
        ((Store.modifyTask a.task fun τ => { τ with mustCancel := true }).run l.store).2 :=
      Store.spares_modifyTask _ (fun _ => rfl) not_false
    refine h.aside rfl rfl spares trivial fun b hb => ?_
    refine ⟨rfl, Pull.isPending_congr (Pull.progress_modifyTask ..), ?_, rfl,
      fun _ w told => spares.told _ _ trivial told⟩
    by_cases same : a.task = b.task
    · rw [← same]
      show (Store.task? ((Store.modifyTask a.task _).run l.store).2 a.task).map _ = _
      rw [Pull.task?_modifyTask, Option.map_map]
      rfl
    · exact congrArg _ (Pull.task?_modifyTask_ne same ..)
  | @passed w pending plain =>
    have other : ¬ g.Tasks w := by
      rintro ⟨b, hb, rfl⟩
      obtain ⟨τ', task', -⟩ := (h.placed b hb).task
      rw [plain] at task'
      cases task'
    have spares : l.store.Spares (fun _ => True) g.Tasks (fun _ => True)
      (l.store.completed w .cancelled) := Store.spares_completed pending nofun other
    refine h.aside (Store.streams_completed ..) rfl spares trivial ?_
    exact h.keeps (spares.mono (fun _ _ => trivial) (fun _ h => h) fun _ _ => trivial)
      fun _ _ => rfl

theorem settle (h : Standing id l g st) {w : Nat} {p : Progress} (pending : l.store.isPending w)
    (done : p ≠ .pending) (foreign : ∀ a ∈ g.calls, w ≠ a.task) :
    Standing id (l.withStore (Store.complete w p)).2 g st := by
  have spares : l.store.Spares (fun _ => True) g.Tasks (fun _ => True) (l.store.completed w p) :=
    Store.spares_completed pending done fun ⟨a, ha, same⟩ => foreign a ha same
  exact h.aside (Store.streams_completed ..) rfl spares trivial
    (h.keeps (spares.mono (fun _ _ => trivial) (fun _ h => h) fun _ _ => trivial) fun _ _ => rfl)

/-- A call that is numbered after all others is none of them. -/
theorem distinct_cons {f : Call → Nat} {a : Call} {calls : List Call}
    (fresh : ∀ b ∈ calls, f b < f a) (distinct : ∀ b ∈ calls, ∀ b' ∈ calls, f b = f b' → b = b') :
    ∀ b ∈ a :: calls, ∀ b' ∈ a :: calls, f b = f b' → b = b' := by
  intro b hb b' hb' same
  rcases List.mem_cons.mp hb with rfl | old <;> rcases List.mem_cons.mp hb' with rfl | old'
  · rfl
  · exact absurd same.symm (Nat.ne_of_lt (fresh b' old'))
  · exact absurd same (Nat.ne_of_lt (fresh b old))
  · exact distinct b old b' old' same

theorem coroutine_startCall (l : EventLoop) (id : Nat) (name : String) (size : Option Int) :
    (l.withStore (Session.startCall name (.call id (.pull size))).run).2.store.coroutines[
      l.store.coroutines.size]? = some { body := .call id (.pull size) } :=
  Array.getElem?_push_size

theorem task?_startCall (l : EventLoop) (id : Nat) (name : String) (size : Option Int) :
    (l.withStore (Session.startCall name (.call id (.pull size))).run).2.store.task?
      l.store.futures.size = some
        { coroutine := l.store.coroutines.size, context := l.store.context, report := name } := by
  have future : (l.withStore (Session.startCall name (.call id (.pull size))).run).2.store.futures[
      l.store.futures.size]? = some
      { task := some { coroutine := l.store.coroutines.size, context := l.store.context, report := name } } :=
    Array.getElem?_push_size
  unfold Store.task?
  rw [future]
  rfl

theorem created_startCall (l : EventLoop) (id : Nat) (name : String) (size : Option Int) :
    (l.withStore (Session.startCall name (.call id (.pull size))).run).2.store.coroutineState
      l.store.coroutines.size = .created := by
  unfold Store.coroutineState
  rw [coroutine_startCall]
  rfl

/-- A new call has not begun. -/
theorem away_startCall (waiting : ∀ p ∈ l.waiting, p.1 < l.store.futures.size) (id : Nat)
    (name : String) (size : Option Int) :
    Call.Away ⟨l.store.futures.size, l.store.coroutines.size, size⟩
      (l.withStore (Session.startCall name (.call id (.pull size))).run).2 := by
  refine ⟨List.lookup_eq_none_iff.mpr fun p hp => ?_, fun f => ?_, fun τ known => ?_⟩
  · simpa using Nat.ne_of_gt (waiting p hp)
  · rw [created_startCall]
    nofun
  · cases (task?_startCall l id name size).symm.trans known
    rfl

theorem call (h : Standing id l g st) (name : String) (size : Option Int) :
    Standing id (l.withStore (Session.startCall name (.call id (.pull size))).run).2
      { g with calls := ⟨l.store.futures.size, l.store.coroutines.size, size⟩ :: g.calls } st := by
  let a : Call := ⟨l.store.futures.size, l.store.coroutines.size, size⟩
  let l' := (l.withStore (Session.startCall name (.call id (.pull size))).run).2
  have spares : l.store.Spares (fun _ => True) (fun _ => True) (fun _ => True) l'.store :=
    (Store.spares_newCoroutine ..).trans (Store.spares_newTask _ (some name) _)
  have h' : Standing id l' g st :=
    h.aside rfl rfl spares trivial (h.keeps (spares.mono (fun _ _ => trivial) (fun _ _ => trivial)
      fun _ _ => trivial) fun _ _ => rfl)
  have away : a.Away l' := away_startCall h.waiting id name size
  have older (b : Call) (hb : b ∈ g.calls) : b.task < a.task ∧ b.coroutine < a.coroutine :=
    ⟨(h.placed b hb).lt_futures, (h.placed b hb).lt_coroutines⟩
  constructor
  case stream => exact h'.stream
  case placed =>
    rintro b hb
    rcases List.mem_cons.mp hb with rfl | hb
    · exact ⟨⟨_, task?_startCall l id name size, rfl⟩, ⟨_, coroutine_startCall l id name size, rfl⟩⟩
    · exact h'.placed b hb
  case tasks => exact distinct_cons (fun b hb => (older b hb).1) h.tasks
  case coroutines => exact distinct_cons (fun b hb => (older b hb).2) h.coroutines
  case waiting => exact h'.waiting
  case foreign =>
    intro c hc
    refine ⟨(h'.foreign c hc).1, ?_⟩
    rintro ⟨b, hb, rfl⟩
    rcases List.mem_cons.mp hb with rfl | hb
    · exact Nat.lt_irrefl _ (h.foreign _ hc).1
    · exact (h.foreign _ hc).2 ⟨b, hb, rfl⟩
  case calm => exact h'.calm
  case attentive => exact h'.attentive
  case deserted => exact h'.deserted
  case holder =>
    cases h'.holder with
    | nobody waiter all =>
      refine .nobody waiter fun b hb => ?_
      rcases List.mem_cons.mp hb with rfl | hb
      · exact away
      · exact all b hb
    | somebody call waiter pulling waits others excuse =>
      refine .somebody (List.mem_cons_of_mem _ call) waiter pulling waits (fun b hb ne => ?_)
        fun pending => ⟨(excuse pending).alert, (excuse pending).torn⟩
      rcases List.mem_cons.mp hb with rfl | hb
      · exact away
      · exact others b hb ne

end Standing

end StreamTemplate
