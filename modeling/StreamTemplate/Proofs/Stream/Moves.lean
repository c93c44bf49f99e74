import StreamTemplate.Proofs.Stream.Standing

/-!
# The steps of a course

What happens to a stream comes to one of a few things for its output: the producer does something,
or a call takes its turn, or the stream is left alone. After each step the stream stands somewhere
again, and so it does after a whole course.
-/

namespace StreamTemplate

open Pull (Call Turn)
open ChunkStream (Attentive)

namespace Ledger

theorem turn_eq (g : Ledger) (id : Nat) (a : Call) (before after : Store) :
    ∃ accepted returned ended, g.turn id a before after = { g with accepted, returned, ended } := by
  unfold turn
  split
  · unfold deliver
    split <;> exact ⟨_, _, _, rfl⟩
  · exact ⟨_, _, _, rfl⟩

end Ledger

namespace Standing

/-- What a turn of a call comes to: the call is over already, it fails because another one is under
way, or no other one waits. -/
inductive Turns (id : Nat) (g : Ledger) (a : Call) (st : ChunkStream) (l : EventLoop) :
    ChunkStream → EventLoop → Prop where
  | past (done : ¬ l.store.isPending a.task) : Turns id g a st l st l
  | refused {e l'} (pulling : st.pulling = true) (pending : l.store.isPending a.task)
      (away : a.Away l) (turn : Turn id a st l (.ended (.error e)) st l') : Turns id g a st l st l'
  | taken {out st' l'} (pending : l.store.isPending a.task)
      (turn : Turn id a { st with waiter := none } l out st' l')
      (away : ∀ b ∈ g.calls, b ≠ a → b.Away l) : Turns id g a st l st' l'

/-- What a step comes to, kind by kind. -/
inductive Steps (id : Nat) (l : EventLoop) (g : Ledger) (st : ChunkStream) :
    EventLoop → Ledger → ChunkStream → Prop where
  | push {members st' s'}
      (foreign : ∀ c, .process .coroutine c ∈ members →
        c < l.store.coroutines.size ∧ ∀ a ∈ g.calls, a.coroutine ≠ c)
      (pushes : ChunkStream.Pushes members st l.store st' s') :
      Steps id l g st { l with store := s'.setStream id st' } (g.accept members) st'
  | close {fault st' s'} (closes : ChunkStream.Closes fault st l.store st' s') :
      Steps id l g st { l with store := s'.setStream id st' } (g.close fault) st'
  | abort {fault r st' s'} (aborts : ChunkStream.Aborts id fault st l.store r st' s') :
      Steps id l g st { l with store := s'.setStream id st' } (g.abort st.waiter r) st'
  | call (name : String) (size : Option Int) :
      Steps id l g st (l.withStore (Session.startCall name (.call id (.pull size))).run).2
        { g with calls := ⟨l.store.futures.size, l.store.coroutines.size, size⟩ :: g.calls } st
  | turn {a r s st'} (call : a ∈ g.calls) (next : l.store.dequeue = some (r, s))
      (resumes : r.Resumes a.task)
      (turns : Turns id g a st { l with store := s } st' (EventLoop.dispatch r { l with store := s })) :
      Steps id l g st (EventLoop.dispatch r { l with store := s })
        (g.turn id a l.store (EventLoop.dispatch r { l with store := s }).store) st'
  | notice {w s s'} (next : l.store.dequeue = some (.notice id w, s))
      (notices : ChunkStream.Notices w st s s') :
      Steps id l g st { l with store := s'.setStream id st } g st
  | cancel {a s'} (call : a ∈ g.calls) (cancels : Pull.Cancels a.task l.store s') :
      Steps id l g st { l with store := s' } g st
  | settle {w p} (pending : l.store.isPending w) (done : p ≠ .pending)
      (foreign : ∀ a ∈ g.calls, w ≠ a.task) :
      Steps id l g st (l.withStore (Store.complete w p)).2 g st
  | outside {l'} (change : Outside id g l l') : Steps id l g st l' g st

/-- What a step is to the output of a stream. -/
inductive Moves (id : Nat) (l : EventLoop) (g : Ledger) (st : ChunkStream) :
    EventLoop → Ledger → ChunkStream → Prop where
  | beside {l'} (calls : List Call) : Moves id l g st l' { g with calls } st
  | push {members st' s'} (pushes : ChunkStream.Pushes members st l.store st' s') :
      Moves id l g st { l with store := s'.setStream id st' } (g.accept members) st'
  | close {fault st' s'} (closes : ChunkStream.Closes fault st l.store st' s') :
      Moves id l g st { l with store := s'.setStream id st' } (g.close fault) st'
  | abort {fault r st' s'} (aborts : ChunkStream.Aborts id fault st l.store r st' s') :
      Moves id l g st { l with store := s'.setStream id st' } (g.abort st.waiter r) st'
  | turn {a r s st' l'} (call : a ∈ g.calls) (next : l.store.dequeue = some (r, s))
      (resumes : r.Resumes a.task)
      (turns : Turns id g a st { l with store := s } st' l') :
      Moves id l g st l' (g.turn id a l.store l'.store) st'

variable {id : Nat} {l l' : EventLoop} {g g' : Ledger} {st st' : ChunkStream}

section

variable {a : Call} {r : Ready} {s : Store}

/-- Taking what resumes a call is noticed by no one else. -/
theorem spares_taken (next : l.store.dequeue = some (r, s)) (resumes : r.Resumes a.task) :
    l.store.Spares (· ≠ .task a.task) (fun _ => True) (fun _ => True) s := by
  refine Store.spares_dequeue next ?_
  rintro x w other rfl
  cases x with
  | task t => exact other (congrArg _ resumes)
  | stream => exact resumes

/-- Taking what resumes a call is nothing to the other calls. -/
theorem keeps_taken (h : Standing id l g st) (call : a ∈ g.calls)
    (next : l.store.dequeue = some (r, s)) (resumes : r.Resumes a.task) {b : Call}
    (other : b ∈ g.calls) (ne : b ≠ a) : b.Keeps l { l with store := s } := by
  have distinct : Listener.task b.task ≠ .task a.task := fun same =>
    ne (h.tasks b other a call (Listener.task.inj same))
  exact .of_spares (h.placed b other) (spares_taken next resumes) distinct trivial trivial rfl

/-- A call that is resumed takes its turn. -/
theorem turns (h : Standing id l g st) (call : a ∈ g.calls)
    (next : l.store.dequeue = some (r, s)) (resumes : r.Resumes a.task) :
    ∃ st', Turns id g a st { l with store := s } st'
      (EventLoop.dispatch r { l with store := s }) := by
  rw [resumes.dispatch]
  generalize r.thrown s = thrown
  have spares := spares_taken next resumes
  obtain ⟨ready, eq, -⟩ := Store.dequeue_eq next
  have stream : s.streams[id]? = some st := by
    rw [eq]
    exact h.stream
  have placed : a.Placed id s := (h.placed a call).spared spares
  have same (k : Call) (away : k.Away l) : k.Away { l with store := s } := eq ▸ away.ready ready
  by_cases pending : s.isPending a.task
  · cases h.holder with
    | nobody waiter all =>
      have alone : st = { st with waiter := none } := by rw [← waiter]
      obtain ⟨out, st', turn, busy⟩ := Pull.turn_away placed pending stream h.calm
        (fun _ => waiter) (same a (all a call)) thrown
      rw [alone] at turn
      exact ⟨st', .taken pending turn fun b hb _ => same b (all b hb)⟩
    | @somebody b w rounds holds waiter pulling waits others =>
      by_cases here : a = b
      · subst here
        have paused : a.Paused id w rounds { l with store := s } := eq ▸ waits.toPaused.ready ready
        obtain ⟨out, st', turn⟩ := Pull.turn_paused placed pending stream h.calm pulling paused thrown
        exact ⟨st', .taken pending turn fun b hb ne => same b (others b hb ne)⟩
      · obtain ⟨out, st', turn, busy⟩ := Pull.turn_away placed pending stream h.calm
          (fun free => by rw [pulling] at free; cases free) (same a (others a call here)) thrown
        obtain ⟨rfl, e, rfl⟩ := busy pulling
        exact ⟨st', .refused pulling pending (same a (others a call here)) turn⟩
  · refine ⟨st, ?_⟩
    rw [Pull.stepTask_past thrown (Bool.not_eq_true _ ▸ pending)]
    exact .past pending

/-- A turn of a call is noticed by no one else but the stream. -/
theorem spares_turn (next : l.store.dequeue = some (r, s)) (resumes : r.Resumes a.task)
    {st₀ : ChunkStream} {out : Pull.Outcome}
    (turn : Turn id a st₀ { l with store := s } out st' l') :
    l.store.Spares (fun x => x ≠ .task a.task ∧ x ≠ .stream id) (· ≠ a.task)
      (fun k => k ≠ a.coroutine ∧ .process .coroutine k ∉ st₀.queued) l'.store := by
  have taken := (spares_taken next resumes).mono (fun x (hx : x ≠ .task a.task ∧ x ≠ .stream id) =>
    hx.1) (fun w (_ : w ≠ a.task) => trivial)
    fun k (_ : k ≠ a.coroutine ∧ .process .coroutine k ∉ st₀.queued) => trivial
  exact taken.trans (turn.spares.mono (fun _ hx => hx.2) (fun _ h => h) fun _ h => h)

/-- A turn of a call is nothing to the other calls. -/
theorem keeps_turn (h : Standing id l g st) (call : a ∈ g.calls)
    (next : l.store.dequeue = some (r, s)) (resumes : r.Resumes a.task) {st₀ : ChunkStream}
    {out : Pull.Outcome} (turn : Turn id a st₀ { l with store := s } out st' l')
    (queued : st₀.queued = st.queued) {b : Call} (other : b ∈ g.calls) (ne : b ≠ a) :
    b.Keeps l l' := by
  have task : b.task ≠ a.task := fun same => ne (h.tasks b other a call same)
  have coroutine : b.coroutine ≠ a.coroutine := fun same => ne (h.coroutines b other a call same)
  refine .of_spares (h.placed b other) (spares_turn next resumes turn) ⟨fun same => ?_, nofun⟩ task
    ⟨coroutine, fun mem => ?_⟩ (turn.others b.task task)
  · exact task (Listener.task.inj same)
  · rw [queued] at mem
    exact (h.foreign _ mem).2 ⟨b, other, rfl⟩

/-- A stream stands as before after a turn, as far as it is not about who waits. -/
theorem resumed (h : Standing id l g st) (call : a ∈ g.calls)
    (next : l.store.dequeue = some (r, s)) (resumes : r.Resumes a.task)
    (calls : g'.calls = g.calls) (deserted : g'.deserted = g.deserted) {st₀ : ChunkStream}
    {out : Pull.Outcome} (turn : Turn id a st₀ { l with store := s } out st' l')
    (queued : st₀.queued = st.queued) (calm : st₀.Calm) (attentive : Attentive id st₀ s)
    (holder : Holder id l' g' st') : Standing id l' g' st' := by
  have taken := spares_taken next resumes
  obtain ⟨s₁, s₂, before, stretch, after⟩ := turn.passes
  have sound := stretch.sound calm (attentive.spared before.spares trivial)
  have futures : l.store.futures.size ≤ l'.store.futures.size :=
    Nat.le_trans taken.futures turn.spares.futures
  have coroutines : l.store.coroutines.size ≤ l'.store.coroutines.size :=
    Nat.le_trans taken.coroutines turn.spares.coroutines
  constructor
  case stream => exact turn.stream
  case placed =>
    intro b hb
    rw [calls] at hb
    exact ((h.placed b hb).spared taken).spared turn.spares
  case tasks =>
    rw [calls]
    exact h.tasks
  case coroutines =>
    rw [calls]
    exact h.coroutines
  case waiting =>
    intro p hp
    rcases turn.waiting p hp with own | old
    · rw [own]
      exact Nat.lt_of_lt_of_le (h.placed a call).lt_futures futures
    · exact Nat.lt_of_lt_of_le (h.waiting p old) futures
  case foreign =>
    intro c hc
    obtain ⟨lt, other⟩ := h.foreign c (queued ▸ sound.queued hc)
    refine ⟨Nat.lt_of_lt_of_le lt coroutines, ?_⟩
    unfold Ledger.Coroutines
    rwa [calls]
  case calm => exact sound.calm
  case attentive => exact sound.attentive.spared after.spares trivial
  case deserted =>
    intro w hw
    rw [deserted] at hw
    exact Nat.lt_of_lt_of_le (h.deserted w hw) futures
  case holder => exact holder

/-- A turn of a call that is over already. -/
theorem turn_past (h : Standing id l g st) (call : a ∈ g.calls)
    (next : l.store.dequeue = some (r, s)) (resumes : r.Resumes a.task)
    (calls : g'.calls = g.calls) (deserted : g'.deserted = g.deserted)
    (done : ¬ s.isPending a.task) : Standing id { l with store := s } g' st := by
  have taken := spares_taken next resumes
  obtain ⟨ready, eq, -⟩ := Store.dequeue_eq next
  refine h.change ?_ calls taken (fun b hb => ?_) (fun p hp => ?_) h.foreign h.calm
    (h.attentive.spared taken nofun) (fun w hw => ?_) ⟨rfl, rfl⟩ fun w waiter pending => ?_
  · rw [eq]
    exact h.stream
  · by_cases own : b = a
    · subst own
      rw [eq] at done ⊢
      exact ⟨rfl, fun pending => pending, rfl, rfl, fun pending => absurd pending done⟩
    · exact h.keeps_taken call next resumes hb own
  · exact Nat.lt_of_lt_of_le (h.waiting p hp) taken.futures
  · rw [deserted] at hw
    exact Nat.lt_of_lt_of_le (h.deserted w hw) taken.futures
  · have before := h.excuse waiter (taken.isPending (h.lt_waiter waiter) pending)
    exact before.spared deserted fun w _ => taken.told (.stream id) w nofun

/-- A turn of a call that fails since another one is under way. -/
theorem turn_refused {e : Fault} (h : Standing id l g st) (call : a ∈ g.calls)
    (next : l.store.dequeue = some (r, s)) (resumes : r.Resumes a.task)
    (calls : g'.calls = g.calls) (deserted : g'.deserted = g.deserted)
    (pulling : st.pulling = true) (away : a.Away { l with store := s })
    (turn : Turn id a st { l with store := s } (.ended (.error e)) st l') :
    Standing id l' g' st := by
  have taken := spares_taken next resumes
  obtain ⟨ready, eq, -⟩ := Store.dequeue_eq next
  have keeps {b : Call} (hb : b ∈ g.calls) (ne : b ≠ a) : b.Keeps l l' :=
    h.keeps_turn call next resumes turn rfl hb ne
  have left : a.Away l' := turn.concludes.2
  refine h.resumed call next resumes calls deserted turn rfl h.calm (h.attentive.spared taken nofun) ?_
  cases h.holder with
  | nobody waiter all =>
    refine .nobody waiter fun b hb => ?_
    rw [calls] at hb
    by_cases own : b = a
    · exact own ▸ left
    · exact (all b hb).kept (keeps hb own)
  | @somebody b w rounds holds waiter _ waits others excuse =>
    have ne : b ≠ a := by
      rintro rfl
      exact away.not_paused (eq ▸ waits.toPaused.ready ready)
    have spares := spares_turn next resumes turn
    refine .somebody (calls ▸ holds) waiter pulling (waits.kept (keeps holds ne) spares)
      (fun b' hb' ne' => ?_) fun pending => ?_
    · rw [calls] at hb'
      by_cases own : b' = a
      · exact own ▸ left
      · exact (others b' hb' ne').kept (keeps hb' own)
    · -- The call that failed has done nothing to the stream, so it is told as before.
      obtain ⟨s₁, s₂, before, stretch, after⟩ := turn.passes
      have kept := stretch.kept pulling
      have first := excuse (spares.isPending (h.lt_waiter waiter) pending)
      exact first.spared deserted fun w _ told => after.spares.told _ _ trivial
        (kept.spares.told _ _ trivial (before.spares.told _ _ trivial
          (taken.told (.stream id) w nofun told)))

/-- A turn of a call while no other one waits. -/
theorem turn_taken {out : Pull.Outcome} (h : Standing id l g st) (call : a ∈ g.calls)
    (next : l.store.dequeue = some (r, s)) (resumes : r.Resumes a.task)
    (calls : g'.calls = g.calls) (deserted : g'.deserted = g.deserted)
    (turn : Turn id a { st with waiter := none } { l with store := s } out st' l')
    (away : ∀ b ∈ g.calls, b ≠ a → b.Away { l with store := s }) : Standing id l' g' st' := by
  have taken := spares_taken next resumes
  obtain ⟨ready, eq, -⟩ := Store.dequeue_eq next
  have attentive : Attentive id st s := h.attentive.spared taken nofun
  refine h.resumed call next resumes calls deserted turn rfl h.calm attentive ?_
  have kept {b : Call} (hb : b ∈ g.calls) (ne : b ≠ a) : b.Away l' := by
    have keeps : b.Keeps l l' := h.keeps_turn call next resumes turn rfl hb ne
    refine Pull.Call.Away.kept (l := l) ?_ keeps
    have away := away b hb ne
    rw [eq] at away
    exact away.ready l.store.ready
  have all (left : a.Away l') : ∀ b ∈ g'.calls, b.Away l' := by
    intro b hb
    rw [calls] at hb
    by_cases own : b = a
    · exact own ▸ left
    · exact kept hb own
  obtain ⟨s₁, s₂, before, stretch, after⟩ := turn.passes
  have holds := stretch.holds rfl
  match out, turn.concludes, holds, stretch with
  | .ended _, concludes, waiter, _ => exact .nobody waiter (all concludes.2)
  | .stuck, concludes, waiter, _ => exact .nobody waiter (all concludes.2)
  | .waits w rounds, waits, ⟨waiter, pulling⟩, stretch =>
    refine .somebody (calls ▸ call) waiter pulling waits (fun b hb ne => ?_) fun _ => ?_
    · rw [calls] at hb
      exact kept hb ne
    · have asked : Attentive id { st with waiter := none } s₁ :=
        attentive.spared before.spares trivial
      obtain ⟨fresh, alert⟩ := stretch.alert h.calm asked
      refine ⟨fun _ => alert.spared fun w _ => after.spares.told _ _ trivial, fun left => ?_⟩
      rw [deserted] at left
      have old : w < s₁.futures.size := Nat.lt_of_lt_of_le (h.deserted w left)
        (Nat.le_trans taken.futures before.spares.futures)
      exact absurd old (Nat.not_lt.mpr fresh)

theorem turn (h : Standing id l g st) (call : a ∈ g.calls)
    (next : l.store.dequeue = some (r, s)) (resumes : r.Resumes a.task)
    (calls : g'.calls = g.calls) (deserted : g'.deserted = g.deserted)
    (turns : Turns id g a st { l with store := s } st' l') : Standing id l' g' st' := by
  cases turns with
  | past done => exact h.turn_past call next resumes calls deserted done
  | refused pulling _ away turn =>
    exact h.turn_refused call next resumes calls deserted pulling away turn
  | taken _ turn away => exact h.turn_taken call next resumes calls deserted turn away

end

/-! ### The steps of a course -/

theorem grows_turns {id : Nat} {l l' : EventLoop} {g : Ledger} {st st' : ChunkStream} {a : Call}
    {r : Ready} {s : Store} (next : l.store.dequeue = some (r, s)) (resumes : r.Resumes a.task)
    (turns : Turns id g a st { l with store := s } st' l') : l.store.Grows l'.store := by
  cases turns with
  | past => exact (spares_taken next resumes).grows
  | refused _ _ _ turn | taken _ turn => exact (spares_turn next resumes turn).grows

/-- Whatever happens is such a step: here, and nowhere else, the operations are opened. -/
theorem steps (h : Standing id l g st) (happens : Happens id l g l' g') :
    ∃ st', Steps id l g st l' g' st' := by
  have acts {α : Type} (op : Surroundings (StateM Store) → StreamM (StateM Store) α) :
      ∃ r st' s', (op (Store.surroundings id)).does st l.store = (r, st', s') ∧
        l.withStore (Store.onStream id op).run = (r, { l with store := s'.setStream id st' }) :=
    ⟨_, _, _, rfl, withStore_onStream h.stream rfl⟩
  cases happens with
  | push chunk foreign =>
    obtain ⟨r, st', s', does, eq⟩ := acts (ChunkStream.push · (l.store.heap.chunkMembers chunk))
    have loop : (l.withStore (pushChunk id chunk).run).2 = _ := congrArg Prod.snd eq
    rw [loop]
    exact ⟨st', .push foreign (ChunkStream.pushes_of_does does)⟩
  | close fault =>
    obtain ⟨r, st', s', does, eq⟩ := acts (ChunkStream.close · fault)
    rw [eq]
    exact ⟨st', .close (ChunkStream.closes_of_does does)⟩
  | abort fault =>
    obtain ⟨r, st', s', does, eq⟩ := acts (ChunkStream.abort · fault)
    have current : Session.streamOf l.store id = st := by
      unfold Session.streamOf
      rw [h.stream]
      rfl
    rw [eq, current]
    exact ⟨st', .abort (ChunkStream.aborts_of_does does)⟩
  | call name size => exact ⟨st, .call name size⟩
  | turn call next resumes =>
    obtain ⟨st', turns⟩ := h.turns call next resumes
    exact ⟨st', .turn call next resumes turns⟩
  | @notice w _ next =>
    obtain ⟨ready, rfl, -⟩ := Store.dequeue_eq next
    obtain ⟨r, st', s', does⟩ : ∃ r st' s', (ChunkStream.noticed (Store.surroundings id) w).does st
      { l.store with ready } = (r, st', s') := ⟨_, _, _, rfl⟩
    obtain ⟨rfl, notices⟩ := ChunkStream.notices_of_does does
    have loop : EventLoop.dispatch (.notice id w) { l with store := { l.store with ready } } =
        { l with store := s'.setStream id st' } :=
      congrArg Prod.snd (withStore_onStream (l := { l with store := { l.store with ready } })
        h.stream does)
    rw [loop]
    exact ⟨st', .notice next notices⟩
  | cancel call => exact ⟨st, .cancel call (h.cancels call)⟩
  | settle pending done foreign => exact ⟨st, .settle pending done foreign⟩
  | outside change => exact ⟨st, .outside change⟩

namespace Steps

theorem standing (steps : Steps id l g st l' g' st') (h : Standing id l g st) :
    Standing id l' g' st' := by
  cases steps with
  | push foreign pushes => exact h.push pushes foreign
  | close closes => exact h.close closes
  | abort aborts => exact h.abort aborts
  | call name size => exact h.call name size
  | turn call next resumes turns =>
    obtain ⟨accepted, returned, ended, ledger⟩ := Ledger.turn_eq ..
    rw [ledger]
    exact h.turn call next resumes rfl rfl turns
  | notice next notices => exact h.notice next notices
  | cancel _ cancels => exact h.cancel cancels
  | settle pending done foreign => exact h.settle pending done foreign
  | outside change => exact h.outside change

theorem grows (steps : Steps id l g st l' g' st') : l.store.Grows l'.store := by
  have stored {s : Store} (grows : l.store.Grows s) (st : ChunkStream) :
      l.store.Grows (s.setStream id st) := grows.trans (.of_same rfl rfl rfl)
  cases steps with
  | push _ pushes => exact stored pushes.grows _
  | close closes => exact stored closes.grows _
  | abort aborts => exact stored aborts.grows _
  | call name => exact (Store.spares_newCoroutine ..).trans (Store.spares_newTask _ (some name) _)
  | turn call next resumes turns => exact grows_turns next resumes turns
  | notice next notices =>
    have taken : l.store.Grows _ := Store.spares_dequeue next fun _ _ => False.elim
    exact stored (taken.trans notices.grows) st
  | cancel _ cancels => exact cancels.grows
  | settle pending done => exact Store.spares_completed pending done not_false
  | outside change => exact change.spares.grows

theorem moves (steps : Steps id l g st l' g' st') : Moves id l g st l' g' st' := by
  cases steps with
  | push _ pushes => exact .push pushes
  | close closes => exact .close closes
  | abort aborts => exact .abort aborts
  | turn call next resumes turns => exact .turn call next resumes turns
  | call => exact .beside _
  | notice | cancel | settle | outside => exact .beside g.calls

end Steps

/-- After each step the stream stands somewhere again. -/
theorem happens (h : Standing id l g st) (happens : Happens id l g l' g') :
    ∃ st', Standing id l' g' st' ∧ l.store.Grows l'.store ∧ Moves id l g st l' g' st' := by
  obtain ⟨st', steps⟩ := h.steps happens
  exact ⟨st', steps.standing h, steps.grows, steps.moves⟩

end Standing

/-- Whatever course a stream takes, it stands somewhere. -/
theorem Course.standing {id : Nat} {l : EventLoop} {g : Ledger} (h : Course id l g) :
    ∃ st, Standing id l g st := by
  induction h with
  | start new waiting => exact ⟨_, .start new waiting⟩
  | next before happens ih =>
    obtain ⟨st, ih⟩ := ih
    obtain ⟨st', standing, -⟩ := ih.happens happens
    exact ⟨st', standing⟩

end StreamTemplate
