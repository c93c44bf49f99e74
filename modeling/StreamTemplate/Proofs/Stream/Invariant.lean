import StreamTemplate.Proofs.Loop.Underway
import StreamTemplate.Proofs.Stream.Coherent
import StreamTemplate.Proofs.Stream.Final

/-!
# What holds of a stream at any time

Whatever course a stream takes, its fields fit its phase, what is for good of it lasts, and the demand
on it is that of the pull that is under way. All steps but the turns of its calls are gone through
once (`Standing.Aside`); a turn does what an advance does to the fields, and leaves its own pull over
or under way. A stream that drains without an active source was torn: in one step of its course it
failed halfway, since a coroutine in its queue was running.
-/

namespace StreamTemplate

open Pull (Call Turn Stretch Kept Idles Asks)
open ChunkStream (Coherent Proceeds Vacant)

section

variable {id c : Nat} {size : Option Int} {l l' : EventLoop} {g g' : Ledger} {a : Call}
  {st st' : ChunkStream} {s s' : Store} {out : Pull.Outcome}

namespace ChunkStream.Proceeds

theorem refl (coherent : st.Coherent) : Proceeds s st st :=
  ⟨coherent, .refl st, fun held _ => held⟩

/-- Who pulls is nothing to what becomes of a stream. -/
theorem around {waiter waiter' : Option Nat} {demand demand' : Option Int} {pulling pulling' : Bool}
    (h : Proceeds s { st with waiter, demand, pulling } st') :
    Proceeds s st { st' with waiter := waiter', demand := demand', pulling := pulling' } :=
  ⟨h.coherent.pulled, ⟨h.lasts.closed, h.lasts.ended, h.lasts.errored⟩, h.held⟩

/-- A stream in whose queue no coroutine begins to run goes the same way from earlier on. -/
theorem earlier (h : Proceeds s' st st') (free : st.Unhindered s → st.Unhindered s') :
    Proceeds s st st' :=
  ⟨h.coherent, h.lasts, fun held unhindered => h.held held (free unhindered)⟩

end ChunkStream.Proceeds

/-! ### Turns -/

/-- A stretch of a pull does to the fields of the stream what an advance does, or nothing. -/
theorem Pull.Stretch.proceeds (h : Stretch id size c st s out st' s') (coherent : st.Coherent)
    (others : ∀ k, .process .coroutine k ∈ st.queued → k < s.coroutines.size ∧ k ≠ c) :
    Proceeds s st st' := by
  have went {s₁ s₂ : Store} {r : Except Fault ChunkStream.Advance} {st₂ : ChunkStream}
      (before : Kept c s s₁) (advances : ChunkStream.Advances id size
        { st with waiter := none, pulling := true } s₁ r st₂ s₂)
      {waiter : Option Nat} {demand : Option Int} {pulling : Bool} :
      Proceeds s st { st₂ with waiter, demand, pulling } :=
    (advances.proceeds coherent.pulled).around.earlier fun free => free.spared before.spares others
  cases h with
  | refused => exact .refl coherent
  | interrupted | stuck => exact .pulled coherent
  | served before advances | waits before advances => exact went before advances

/-- A turn of a call goes on with the fields of the stream. -/
theorem Standing.proceeds_turn (h : Standing id l g st) (coherent : st.Coherent)
    (call : a ∈ g.calls) {r : Ready} (next : l.store.dequeue = some (r, s))
    (resumes : r.Resumes a.task) (turns : Turns id g a st { l with store := s } st' l') :
    Proceeds l.store st st' := by
  cases turns with
  | past | refused => exact .refl coherent
  | taken _ turn =>
    have taken := spares_taken next resumes
    obtain ⟨s₁, s₂, before, stretch, -⟩ := turn.passes
    have lt (k : Nat) (hk : .process .coroutine k ∈ st.queued) : k < s.coroutines.size :=
      Nat.lt_of_lt_of_le (h.foreign k hk).1 taken.coroutines
    have proceeds := stretch.proceeds coherent.pulled fun k hk =>
      ⟨Nat.lt_of_lt_of_le (lt k hk) before.spares.coroutines,
        fun own => (h.foreign k hk).2 ⟨a, call, own⟩⟩
    refine proceeds.around.earlier fun free => ?_
    exact (free.spared taken fun k hk => ⟨(h.foreign k hk).1, trivial⟩).spared before.spares
      fun k hk => ⟨lt k hk, trivial⟩

/-! ### All other steps -/

/-- A step that is no turn of a call goes on with the fields of the stream, and leaves the calls and
the demand as they are. A new call has not begun. -/
structure Standing.Aside (l : EventLoop) (g : Ledger) (st : ChunkStream) (l' : EventLoop)
    (g' : Ledger) (st' : ChunkStream) : Prop where
  proceeds : Proceeds l.store st st'
  pulling : st'.pulling = st.pulling
  demand : st'.demand = st.demand
  coroutines : ∀ a ∈ g.calls,
    l'.store.coroutineState a.coroutine = l.store.coroutineState a.coroutine
  calls : ∀ a ∈ g'.calls, a ∈ g.calls ∨ l'.store.coroutineState a.coroutine = .created
  kept : g.calls ⊆ g'.calls

namespace Standing.Aside

/-- A change that spares the calls leaves them as they are. -/
theorem of_spares (h : Standing id l g st) (proceeds : Proceeds l.store st st')
    (pulling : st'.pulling = st.pulling) (demand : st'.demand = st.demand)
    (calls : g'.calls = g.calls)
    (spares : l.store.Spares (fun _ => False) (fun _ => False) g.Coroutines l'.store) :
    Aside l g st l' g' st' :=
  ⟨proceeds, pulling, demand,
    fun a ha => spares.coroutineState (h.placed a ha).lt_coroutines ⟨a, ha, rfl⟩,
    fun _ ha => .inl (calls ▸ ha), fun _ ha => calls ▸ ha⟩

/-- An operation on the stream does to the store what it does apart from the calls. -/
theorem of_operation (h : Standing id l g st) (proceeds : Proceeds l.store st st')
    (pull : st'.pulling = st.pulling ∧ st'.demand = st.demand) (calls : g'.calls = g.calls)
    (spares : l.store.Spares (fun _ => False) (fun _ => False) g.Coroutines s') :
    Aside l g st { l with store := s'.setStream id st' } g' st' :=
  .of_spares h proceeds pull.1 pull.2 calls (spares.trans (.of_same rfl rfl rfl))

theorem mild {L : Listener → Prop} {T C : Nat → Prop} (spares : s.Spares L T C s')
    (coroutine : ∀ c, g.Coroutines c → C c) :
    s.Spares (fun _ => False) (fun _ => False) g.Coroutines s' :=
  spares.mono (fun _ => False.elim) (fun _ => False.elim) coroutine

theorem woken (s : Store) (waiter : Option Nat) :
    s.Spares (fun _ => False) (fun _ => False) g.Coroutines (s.woken waiter) :=
  Store.spares_woken s fun _ _ => not_false

theorem push {members : List Value} (h : Standing id l g st) (coherent : st.Coherent)
    (foreign : ∀ c, .process .coroutine c ∈ members →
      c < l.store.coroutines.size ∧ ∀ a ∈ g.calls, a.coroutine ≠ c)
    (pushes : ChunkStream.Pushes members st l.store st' s') :
    Aside l g st { l with store := s'.setStream id st' } (g.accept members) st' := by
  refine .of_operation h (pushes.proceeds coherent) ?_ (g.calls_accept _) ?_
  · cases pushes <;> exact ⟨rfl, rfl⟩
  · cases pushes with
    | dropped =>
      refine Store.spares_disposal _ _ fun c hc => ?_
      rintro ⟨a, ha, own⟩
      exact (foreign c hc).2 a ha own.symm
    | refused | nothing => exact .refl _
    | taken => exact woken l.store _

theorem close {fault : Option Fault} (h : Standing id l g st) (coherent : st.Coherent)
    (closes : ChunkStream.Closes fault st l.store st' s') :
    Aside l g st { l with store := s'.setStream id st' } (g.close fault) st' := by
  refine .of_operation h (closes.proceeds coherent) ?_ rfl ?_
  · cases closes <;> exact ⟨rfl, rfl⟩
  · cases closes with
    | again => exact .refl _
    | first => exact woken l.store _

theorem abort {fault : Fault} {r : Except Fault Unit} (h : Standing id l g st)
    (coherent : st.Coherent) (aborts : ChunkStream.Aborts id fault st l.store r st' s') :
    Aside l g st { l with store := s'.setStream id st' } (g.abort st.waiter r) st' := by
  obtain ⟨deserted, ledger⟩ := g.abort_eq st.waiter r
  refine .of_operation h (aborts.proceeds coherent) ?_ (by rw [ledger]) ?_
  · cases aborts <;> exact ⟨rfl, rfl⟩
  · cases aborts with
    | late => exact .refl _
    | through _ disposed => exact (mild (h.disposed disposed).2 fun _ own => own).trans (woken _ _)
    | cutShort _ disposed => exact mild (h.disposed disposed).2 fun _ own => own

theorem call (h : Standing id l g st) (coherent : st.Coherent) (name : String) :
    Aside l g st (l.withStore (Session.startCall name (.call id (.pull size))).run).2
      { g with calls := ⟨l.store.futures.size, l.store.coroutines.size, size⟩ :: g.calls } st := by
  have spares : l.store.Spares (fun _ => False) (fun _ => False) g.Coroutines
      (l.withStore (Session.startCall name (.call id (.pull size))).run).2.store :=
    (Store.spares_newCoroutine ..).trans (Store.spares_newTask _ (some name) _)
  have same : Aside l g st _ g st := .of_spares h (.refl coherent) rfl rfl rfl spares
  refine ⟨same.proceeds, rfl, rfl, same.coroutines, fun a ha => ?_, List.subset_cons_self ..⟩
  rcases List.mem_cons.mp ha with rfl | ha
  · exact .inr (created_startCall l id name size)
  · exact .inl ha

theorem notice {w : Nat} (h : Standing id l g st) (coherent : st.Coherent)
    (next : l.store.dequeue = some (.notice id w, s)) (notices : ChunkStream.Notices w st s s') :
    Aside l g st { l with store := s'.setStream id st } g st := by
  have taken : l.store.Spares (fun _ => False) (fun _ => False) g.Coroutines s :=
    Store.spares_dequeue next fun _ _ => False.elim
  refine .of_operation h (.refl coherent) ⟨rfl, rfl⟩ rfl (taken.trans ?_)
  cases notices with
  | own => exact woken s _
  | other => exact .refl _

theorem cancel {t : Nat} (h : Standing id l g st) (coherent : st.Coherent)
    (cancels : Pull.Cancels t l.store s') : Aside l g st { l with store := s' } g st := by
  refine .of_spares h (.refl coherent) rfl rfl rfl ?_
  cases cancels with
  | past => exact .refl _
  | marked => exact Store.spares_modifyTask _ (fun _ => rfl) not_false
  | passed pending => exact Store.spares_completed pending nofun not_false

theorem settle {w : Nat} {p : Progress} (h : Standing id l g st) (coherent : st.Coherent)
    (pending : l.store.isPending w) (done : p ≠ .pending) :
    Aside l g st (l.withStore (Store.complete w p)).2 g st := by
  have spares : l.store.Spares (fun _ => False) (fun _ => False) g.Coroutines
    (l.withStore (Store.complete w p)).2.store := Store.spares_completed pending done not_false
  exact .of_spares h (.refl coherent) rfl rfl rfl spares

theorem outside (h : Standing id l g st) (coherent : st.Coherent) (change : Outside id g l l') :
    Aside l g st l' g st :=
  .of_spares h (.refl coherent) rfl rfl rfl (mild change.spares fun _ own => own)

end Standing.Aside

/-! ### The demand on a stream -/

/-- The demand on a stream: no pull is under way and nothing is asked for, or one is, and what it asks
for is asked for. -/
inductive Demanded (g : Ledger) (st : ChunkStream) (s : Store) : Prop where
  | nobody (pulling : st.pulling = false) (demand : st.demand = none)
      (others : ∀ b ∈ g.calls, ¬s.UnderWay b.coroutine)
  | somebody {a : Call} (call : a ∈ g.calls) (pulling : st.pulling = true)
      (demand : st.demand = a.size) (underWay : s.UnderWay a.coroutine)
      (others : ∀ b ∈ g.calls, b ≠ a → ¬s.UnderWay b.coroutine)

namespace Demanded

theorem aside (h : Demanded g st l.store) (aside : Standing.Aside l g st l' g' st') :
    Demanded g' st' l'.store := by
  have idle (b : Call) (hb : b ∈ g'.calls)
      (before : b ∈ g.calls → ¬l.store.UnderWay b.coroutine) : ¬l'.store.UnderWay b.coroutine := by
    intro on
    rcases aside.calls b hb with old | created
    · exact before old (on.congr (aside.coroutines b old).symm)
    · exact on.1 created
  cases h with
  | nobody pulling demand others =>
    exact .nobody (aside.pulling.trans pulling) (aside.demand.trans demand)
      fun b hb => idle b hb (others b)
  | somebody call pulling demand underWay others =>
    exact .somebody (aside.kept call) (aside.pulling.trans pulling) (aside.demand.trans demand)
      (underWay.congr (aside.coroutines _ call)) fun b hb ne => idle b hb fun old => others b old ne

/-- After its turn a call has got to the stream and no other one is under way. -/
theorem of_asks (asks : Asks a.size a.coroutine st' s') (call : a ∈ g.calls)
    (others : ∀ b ∈ g.calls, b ≠ a → ¬s'.UnderWay b.coroutine) : Demanded g st' s' := by
  cases asks with
  | nothing pulling demand closed =>
    refine .nobody pulling demand fun b hb => ?_
    by_cases own : b = a
    · subst own
      exact fun on => on.2 closed
    · exact others b hb own
  | more pulling demand underWay => exact .somebody call pulling demand underWay others

/-- After its turn a call has not got to the stream and nothing has changed. -/
theorem of_idles (h : Demanded g st s) (idles : Idles a.coroutine st st' s s')
    (others : ∀ b ∈ g.calls, b ≠ a → (s'.UnderWay b.coroutine ↔ s.UnderWay b.coroutine)) :
    Demanded g st' s' := by
  have same (b : Call) (hb : b ∈ g.calls) : s'.UnderWay b.coroutine ↔ s.UnderWay b.coroutine := by
    by_cases own : b = a
    · subst own
      exact idles.underWay
    · exact others b hb own
  rw [idles.same]
  cases h with
  | nobody pulling demand others =>
    exact .nobody pulling demand fun b hb => (same b hb).not.mpr (others b hb)
  | somebody call pulling demand underWay others =>
    exact .somebody call pulling demand ((same _ call).mpr underWay) fun b hb ne =>
      (same b hb).not.mpr (others b hb ne)

section

variable (h : Demanded g st l.store) (call : a ∈ g.calls) (placed : a.Placed id l.store)
  (pending : l.store.isPending a.task) (stream : l.store.streams[id]? = some st) (calm : st.Calm)
  (thrown : Option Fault)
  (others : ∀ b ∈ g.calls, b ≠ a → ((l.stepTask a.task thrown).store.UnderWay b.coroutine ↔
    l.store.UnderWay b.coroutine))

include h call placed pending stream calm others

/-- A call that does not wait takes its turn. -/
theorem stepTask_away (waiter : st.pulling = false → st.waiter = none) (away : a.Away l) :
    ∃ st', (l.stepTask a.task thrown).store.streams[id]? = some st' ∧
      Demanded g st' (l.stepTask a.task thrown).store := by
  obtain ⟨st', stream', idles | ⟨free, asks⟩⟩ :=
    Pull.asks_away placed pending stream calm waiter away thrown
  · exact ⟨st', stream', h.of_idles idles others⟩
  · refine ⟨st', stream', .of_asks asks call fun b hb ne => (others b hb ne).not.mpr ?_⟩
    cases h with
    | nobody _ _ idle => exact idle b hb
    | somebody _ busy => cases free.symm.trans busy

/-- The call that waits takes its turn. -/
theorem stepTask_paused {w rounds : Nat} (pulling : st.pulling = true)
    (paused : a.Paused id w rounds l) :
    ∃ st', (l.stepTask a.task thrown).store.streams[id]? = some st' ∧
      Demanded g st' (l.stepTask a.task thrown).store := by
  have on : l.store.UnderWay a.coroutine := Pull.underWay_of_suspended paused.coroutine
  cases h with
  | nobody idle => cases pulling.symm.trans idle
  | @somebody b _ _ demand _ idle =>
    obtain rfl : a = b := by
      by_contra ne
      exact idle a call ne on
    obtain ⟨st', stream', asks⟩ :=
      Pull.asks_paused placed pending stream calm pulling demand paused thrown
    exact ⟨st', stream', .of_asks asks call fun b hb ne => (others b hb ne).not.mpr (idle b hb ne)⟩

end

end Demanded

/-- A turn of a call is nothing to the other calls. -/
theorem Standing.keeps_others (h : Standing id l g st) (call : a ∈ g.calls) {r : Ready}
    (next : l.store.dequeue = some (r, s)) (resumes : r.Resumes a.task)
    (turns : Turns id g a st { l with store := s } st' l') {b : Call} (other : b ∈ g.calls)
    (ne : b ≠ a) : b.Keeps l l' := by
  cases turns with
  | past => exact h.keeps_taken call next resumes other ne
  | refused _ _ _ turn | taken _ turn => exact h.keeps_turn call next resumes turn rfl other ne

/-- After a turn of a call the demand on the stream is that of the pull that is under way. -/
theorem Standing.demanded (h : Standing id l g st) (demanded : Demanded g st l.store)
    (call : a ∈ g.calls) {r : Ready} (next : l.store.dequeue = some (r, s))
    (resumes : r.Resumes a.task) :
    ∃ st', (EventLoop.dispatch r { l with store := s }).store.streams[id]? = some st' ∧
      Demanded g st' (EventLoop.dispatch r { l with store := s }).store := by
  obtain ⟨st₁, turns⟩ := h.turns call next resumes
  have others (b : Call) (hb : b ∈ g.calls) (ne : b ≠ a) :
      (EventLoop.dispatch r { l with store := s }).store.UnderWay b.coroutine ↔
        l.store.UnderWay b.coroutine := by
    have same := (h.keeps_others call next resumes turns hb ne).coroutine
    exact ⟨fun on => on.congr same.symm, fun on => on.congr same⟩
  clear turns
  rw [resumes.dispatch] at others ⊢
  generalize r.thrown s = thrown at others ⊢
  have placed : a.Placed id s := (h.placed a call).spared (spares_taken next resumes)
  obtain ⟨ready, rfl, -⟩ := Store.dequeue_eq next
  have demanded : Demanded g st { l.store with ready } := by
    cases demanded with
    | nobody pulling demand idle => exact .nobody pulling demand idle
    | somebody call pulling demand on idle => exact .somebody call pulling demand on idle
  by_cases pending : ({ l.store with ready } : Store).isPending a.task
  · have alone (waiter : st.pulling = false → st.waiter = none) (away : a.Away l) :=
      demanded.stepTask_away (l := { l with store := { l.store with ready } }) call placed pending
        h.stream h.calm thrown others waiter (away.ready ready)
    cases h.holder with
    | nobody waiter all => exact alone (fun _ => waiter) (all a call)
    | @somebody b w rounds holds waiter pulling waits away =>
      by_cases here : a = b
      · subst here
        exact demanded.stepTask_paused (l := { l with store := { l.store with ready } }) call placed
          pending h.stream h.calm thrown others pulling (waits.toPaused.ready ready)
      · exact alone (fun free => nomatch pulling.symm.trans free) (away a call here)
  · rw [Pull.stepTask_past thrown (Bool.not_eq_true _ ▸ pending)]
    exact ⟨st, h.stream, demanded⟩

/-! ### Courses -/

/-- What holds of the stream `id` at any time. -/
structure Sound (id : Nat) (l : EventLoop) (g : Ledger) (st : ChunkStream) : Prop where
  standing : Standing id l g st
  coherent : st.Coherent
  demanded : Demanded g st l.store

/-- What holds at any time holds after each step. -/
theorem Sound.steps (h : Sound id l g st) (steps : Standing.Steps id l g st l' g' st') :
    Sound id l' g' st' ∧ Proceeds l.store st st' := by
  have standing := steps.standing h.standing
  have coherent := h.coherent
  have beside (aside : Standing.Aside l g st l' g' st') :
      Sound id l' g' st' ∧ Proceeds l.store st st' :=
    ⟨⟨standing, aside.proceeds.coherent, h.demanded.aside aside⟩, aside.proceeds⟩
  cases steps with
  | push foreign pushes => exact beside (.push h.standing coherent foreign pushes)
  | close closes => exact beside (.close h.standing coherent closes)
  | abort aborts => exact beside (.abort h.standing coherent aborts)
  | call name => exact beside (.call h.standing coherent name)
  | notice next notices => exact beside (.notice h.standing coherent next notices)
  | cancel _ cancels => exact beside (.cancel h.standing coherent cancels)
  | settle pending done => exact beside (.settle h.standing coherent pending done)
  | outside change => exact beside (.outside h.standing coherent change)
  | turn call next resumes turns =>
    have proceeds := h.standing.proceeds_turn coherent call next resumes turns
    obtain ⟨st₁, stream, demanded⟩ := h.standing.demanded h.demanded call next resumes
    obtain rfl : st₁ = st' := Option.some.inj (stream.symm.trans standing.stream)
    refine ⟨⟨standing, proceeds.coherent, ?_⟩, proceeds⟩
    obtain ⟨accepted, returned, ended, ledger⟩ := Ledger.turn_eq ..
    rw [ledger]
    cases demanded with
    | nobody pulling demand idle => exact .nobody pulling demand idle
    | somebody call pulling demand on idle => exact .somebody call pulling demand on idle

theorem Sound.happens (h : Sound id l g st) (happens : Happens id l g l' g') :
    ∃ st', Sound id l' g' st' ∧ Proceeds l.store st st' := by
  obtain ⟨st', steps⟩ := h.standing.steps happens
  exact ⟨st', h.steps steps⟩

/-- In the step from one point to the next a stream that drains loses its source: it fails halfway,
since one of the coroutines in its queue is running. -/
structure Tears (id : Nat) (l : EventLoop) (g : Ledger) (l' : EventLoop) (g' : Ledger) : Prop where
  happens : Happens id l g l' g'
  before : ∃ st, l.store.streams[id]? = some st ∧ st.Held ∧ ¬st.Unhindered l.store
  after : ∃ st, l'.store.streams[id]? = some st ∧ ¬st.Held

/-- On the way to a point of its course the stream was torn. -/
def TornBefore (id : Nat) (l : EventLoop) (g : Ledger) : Prop :=
  ∃ l₀ g₀ l₁ g₁, Course id l₀ g₀ ∧ Tears id l₀ g₀ l₁ g₁ ∧ Onward id l₁ g₁ l g

/-- Whatever course a stream takes, it is sound, and has a source while it drains unless it was
torn. -/
theorem Course.sound (h : Course id l g) : ∃ st, Sound id l g st ∧ (st.Held ∨ TornBefore id l g) := by
  -- By induction on the course; a step that tears the stream is the last one so far.
  induction h with
  | start new waiting =>
    have standing := Standing.start new waiting
    exact ⟨_, ⟨standing, .idle rfl ⟨rfl, rfl, rfl⟩ rfl, .nobody rfl rfl nofun⟩, .inl nofun⟩
  | @next l g l' g' before happens ih =>
    obtain ⟨st, sound, held | ⟨l₀, g₀, l₁, g₁, course, tears, onward⟩⟩ := ih
    · obtain ⟨st', sound', proceeds⟩ := sound.happens happens
      refine ⟨st', sound', ?_⟩
      by_cases held' : st'.Held
      · exact .inl held'
      · have hindered : ¬st.Unhindered l.store := fun free => held' (proceeds.held held free)
        exact .inr ⟨l, g, l', g', before, ⟨happens, ⟨st, sound.standing.stream, held, hindered⟩,
          st', sound'.standing.stream, held'⟩, .here⟩
    · obtain ⟨st', sound', -⟩ := sound.happens happens
      exact ⟨st', sound', .inr ⟨l₀, g₀, l₁, g₁, course, tears, onward.next happens⟩⟩

theorem Onward.lasts (h : Onward id l g l' g') (sound : Sound id l g st) :
    ∃ st', Sound id l' g' st' ∧ st.Lasts st' := by
  induction h with
  | here => exact ⟨st, sound, .refl st⟩
  | next before happens ih =>
    obtain ⟨st₁, sound₁, lasts⟩ := ih
    obtain ⟨st₂, sound₂, proceeds⟩ := sound₁.happens happens
    exact ⟨st₂, sound₂, lasts.trans proceeds.lasts⟩

/-- Whatever has happened to a stream: while it is idle, nothing is active or in flight; while it
drains, it has an active source, unless it was torn and has nothing; once it has ended or failed, it
is closed, and nothing is queued, active or in flight. It holds a fault exactly if it has failed. It
is asked for something only by a pull that is under way, and then for the size of that pull. Whatever
happens from then on, that it is closed, has ended or has failed stays so, and its fault as well. -/
theorem Course.fields_fit (h : Course id l g) :
    ∃ st, l.store.streams[id]? = some st ∧
      (st.phase = .idle → st.Vacant) ∧
      (st.phase = .draining → st.active ≠ none ∨ st.Vacant ∧ TornBefore id l g) ∧
      (st.phase = .ended ∨ st.phase = .errored →
        st.Vacant ∧ st.closed = true ∧ st.queue.toList = []) ∧
      (st.fault ≠ none ↔ st.phase = .errored) ∧
      (∀ n, st.demand = some n →
        ∃ a ∈ g.calls, l.store.UnderWay a.coroutine ∧ a.size = some n) ∧
      (∀ a ∈ g.calls, l.store.UnderWay a.coroutine → st.demand = a.size) ∧
      ∀ l' g', Onward id l g l' g' → ∃ st', l'.store.streams[id]? = some st' ∧ st.Lasts st' := by
  obtain ⟨st, sound, sourced⟩ := h.sound
  refine ⟨st, sound.standing.stream, sound.coherent.of_idle, fun phase => ?_, sound.coherent.of_over,
    sound.coherent.fault_iff, fun n asked => ?_, fun a call on => ?_, fun l' g' onward => ?_⟩
  · rcases sourced with held | torn
    · exact .inl (held phase)
    · by_cases active : st.active = none
      · exact .inr ⟨sound.coherent.of_draining phase active, torn⟩
      · exact .inl active
  · cases sound.demanded with
    | nobody _ demand => cases demand.symm.trans asked
    | somebody call _ demand on => exact ⟨_, call, on, demand.symm.trans asked⟩
  · cases sound.demanded with
    | nobody _ _ idle => exact absurd on (idle a call)
    | @somebody b _ _ demand _ idle =>
      obtain rfl : a = b := by
        by_contra ne
        exact idle a call ne on
      exact demand
  · obtain ⟨st', sound', lasts⟩ := onward.lasts sound
    exact ⟨st', sound'.standing.stream, lasts⟩

end

/-- A pull that has come to a future that is pending asks for its size, of a stream that drains. -/
theorem Course.exists_demand : ∃ l g st, Course 0 l g ∧ l.store.streams[0]? = some st ∧
    st.phase = .draining ∧ (st.active ≠ none ∨ st.Vacant ∧ TornBefore 0 l g) ∧
    st.demand = some 3 ∧ ∃ a ∈ g.calls, l.store.UnderWay a.coroutine ∧ a.size = some 3 := by
  have opened : Course 0 _ _ := .start (l := { store := { futures := #[{}] } }) rfl nofun
  have pushed := opened.next (.push (.process .future 0) nofun)
  have begun := pushed.next (.call "reader" (some 3))
  have waits := begun.next (.turn (r := .step 1 none) (List.mem_cons_self ..) rfl rfl)
  obtain ⟨st, stream, -, sourced, -, -, asks, -, -⟩ := waits.fields_fit
  have draining : st.phase = .draining := (Option.some.inj stream) ▸ rfl
  have demand : st.demand = some 3 := (Option.some.inj stream) ▸ rfl
  exact ⟨_, _, st, waits, stream, draining, sourced draining, demand, asks 3 demand⟩

end StreamTemplate
