import StreamTemplate.Proofs.Stream.Reach

/-!
# How far the sources of a stream have come

The accepted sources are exhausted one after the other. Behind those that are comes at most one for
which something was begun, and each request to it but the last has brought a chunk (`Delivers`);
nothing was begun for the rest. `Pace` says so in each phase of the stream, and counts the chunks
that have come out. An advance keeps the pace, whatever it comes to.
-/

namespace StreamTemplate

/-- A request for an item has brought a chunk. -/
def Store.Brought (s : Store) (w : Nat) : Prop :=
  ∃ v, SourceKind.substream.yield (s.progress w) = [v]

namespace Accepted

/-- A source has yielded all that it has. -/
inductive Exhausted (s : Store) (e : Accepted) : Prop
  | literal (kind : e.source.kind = .literal) (work : e.work = [])
  | deferred {w v} (kind : e.source.kind = .deferred) (slots : e.slots = [.awaited .deferred w])
      (work : e.work = [] ∨ e.work = [w]) (finished : s.progress w = .finished v)
  | substream {ws w v} (kind : e.source.kind = .substream) (work : e.work = ws ++ [w])
      (items : ∀ w ∈ ws, s.Brought w) (finished : s.progress w = .finished v)
      (last : ∀ tuple u, v ≠ .tuple tuple [.bool false, u])

/-- So many chunks of a source that is not exhausted have been delivered, and what was begun for it
last and has brought nothing yet. -/
inductive Delivers (s : Store) (e : Accepted) : Nat → Option Nat → Prop
  | resting (kind : e.source.kind = .substream) (items : ∀ w ∈ e.work, s.Brought w) :
      Delivers s e e.work.length none
  | awaiting {w} (kind : e.source.kind = .deferred) (slots : e.slots = [.awaited .deferred w])
      (work : e.work = [] ∨ e.work = [w]) : Delivers s e 0 (some w)
  | requesting {ws w} (kind : e.source.kind = .substream) (work : e.work = ws ++ [w])
      (items : ∀ w ∈ ws, s.Brought w) : Delivers s e ws.length (some w)

/-- The number of chunks that sources have yielded. -/
def yielded (s : Store) (accepted : List Accepted) : Nat :=
  (accepted.flatMap (·.emissions s)).length

section

variable {s s' : Store} {e : Accepted} {accepted : List Accepted} {w : Nat} {v : Value}

@[simp]
theorem yielded_append (s : Store) (accepted accepted' : List Accepted) :
    yielded s (accepted ++ accepted') = yielded s accepted + yielded s accepted' := by
  unfold yielded
  rw [List.flatMap_append, List.length_append]

@[simp]
theorem yielded_singleton (s : Store) (e : Accepted) : yielded s [e] = (e.emissions s).length := by
  unfold yielded
  rw [List.flatMap_singleton]

end

end Accepted

section

variable {s s' : Store} {e : Accepted} {accepted : List Accepted} {w : Nat} {v : Value}

namespace Store.Brought

/-- What has brought a chunk is done. -/
theorem finished (h : s.Brought w) : ∃ v, s.progress w = .finished v := by
  obtain ⟨u, yields⟩ := h
  cases progress : s.progress w with
  | finished v => exact ⟨v, rfl⟩
  | pending | failed | cancelled =>
    rw [progress] at yields
    cases yields

theorem grows (h : s.Brought w) (grows : s.Grows s') : s'.Brought w := by
  obtain ⟨v, done⟩ := h.finished
  have past : Slot.Over s (.awaited .substream w) := ⟨v, done⟩
  obtain ⟨u, yields⟩ := h
  exact ⟨u, (past.grows grows).2.trans yields⟩

end Store.Brought

/-- What is finished stays so. -/
theorem Store.Grows.finished (grows : s.Grows s') (finished : s.progress w = .finished v) :
    s'.progress w = .finished v := by
  refine (grows.progress (Store.lt_of_finished finished) ?_).trans finished
  rw [Store.not_isPending_iff, finished]
  nofun

namespace Accepted

theorem slots_substream (kind : e.source.kind = .substream) :
    e.slots = e.work.map (.awaited .substream) := by
  unfold slots
  simp [kind]

theorem emissions_substream (kind : e.source.kind = .substream) (s : Store) :
    e.emissions s = e.work.flatMap fun w => SourceKind.substream.yield (s.progress w) := by
  unfold emissions
  rw [slots_substream kind, List.flatMap_map]
  rfl

theorem emissions_deferred (slots : e.slots = [.awaited .deferred w]) (s : Store) :
    e.emissions s = SourceKind.deferred.yield (s.progress w) := by
  unfold emissions
  rw [slots, List.flatMap_singleton]
  rfl

/-- As many requests as have brought a chunk yield as many. -/
theorem length_items {ws : List Nat} (items : ∀ w ∈ ws, s.Brought w) :
    (ws.flatMap fun w => SourceKind.substream.yield (s.progress w)).length = ws.length := by
  induction ws with
  | nil => rfl
  | cons w ws ih =>
    obtain ⟨v, yields⟩ := items w (List.mem_cons_self ..)
    have rest := ih fun w hw => items w (List.mem_cons_of_mem _ hw)
    rw [List.flatMap_cons, yields, List.length_append, rest, List.length_cons]
    exact Nat.add_comm ..

/-- The signal for the end is no chunk. -/
theorem yield_last (last : ∀ tuple u, v ≠ .tuple tuple [.bool false, u]) :
    SourceKind.substream.yield (.finished v) = [] := by
  unfold SourceKind.yield
  split
  · contradiction
  · next same =>
    cases same
    exact absurd rfl (last _ _)
  · rfl

namespace Exhausted

/-- A source that is exhausted is over with. -/
theorem past (h : e.Exhausted s) : ∀ slot ∈ e.slots, slot.Over s := by
  intro slot mem
  cases h with
  | literal kind =>
    have slots : e.slots = [.ready e.source.value] := by simp [Accepted.slots, kind]
    rw [slots, List.mem_singleton] at mem
    subst mem
    trivial
  | deferred _ slots _ finished =>
    rw [slots, List.mem_singleton] at mem
    subst mem
    exact ⟨_, finished⟩
  | substream kind work items finished =>
    rw [slots_substream kind, List.mem_map] at mem
    obtain ⟨w, hw, rfl⟩ := mem
    rw [work, List.mem_append, List.mem_singleton] at hw
    rcases hw with item | rfl
    · exact (items w item).finished
    · exact ⟨_, finished⟩

theorem grows (h : e.Exhausted s) (grows : s.Grows s') :
    e.Exhausted s' ∧ e.emissions s' = e.emissions s := by
  refine ⟨?_, (yields_grows h.past grows).2⟩
  cases h with
  | literal kind work => exact .literal kind work
  | deferred kind slots work finished => exact .deferred kind slots work (grows.finished finished)
  | substream kind work items finished last =>
    exact .substream kind work (fun w hw => (items w hw).grows grows) (grows.finished finished) last

/-- Nothing that was begun for a source that is exhausted is pending. -/
theorem not_isPending (h : e.Exhausted s) : ∀ w ∈ e.work, ¬ s.isPending w := by
  have done {w v} (finished : s.progress w = .finished v) : ¬ s.isPending w := by
    rw [Store.not_isPending_iff, finished]
    nofun
  intro w mem
  cases h with
  | literal _ work =>
    rw [work] at mem
    cases mem
  | deferred _ _ work finished =>
    rcases work with work | work
    · rw [work] at mem
      cases mem
    · rw [work, List.mem_singleton] at mem
      subst mem
      exact done finished
  | substream _ work items finished =>
    rw [work, List.mem_append, List.mem_singleton] at mem
    rcases mem with item | rfl
    · exact done (items w item).finished.choose_spec
    · exact done finished

/-- Of what was begun for a source that is exhausted one request at most has brought no chunk. -/
theorem length_work (h : e.Exhausted s) : e.work.length ≤ (e.emissions s).length + 1 := by
  cases h with
  | literal _ work => simp [work]
  | deferred _ _ work => rcases work with work | work <;> simp [work]
  | substream kind work items =>
    rw [emissions_substream kind, work, List.flatMap_append, List.length_append, List.length_append,
      length_items items]
    simp

end Exhausted

namespace Delivers

variable {n : Nat} {last : Option Nat}

theorem grows (h : e.Delivers s n last) (grows : s.Grows s') : e.Delivers s' n last := by
  cases h with
  | resting kind items => exact .resting kind fun w hw => (items w hw).grows grows
  | awaiting kind slots work => exact .awaiting kind slots work
  | requesting kind work items =>
    exact .requesting kind work fun w hw => (items w hw).grows grows

/-- Only what was begun last can be pending. -/
theorem pending (h : e.Delivers s n last) (mem : w ∈ e.work) (pending : s.isPending w) :
    last = some w := by
  have item (brought : s.Brought w) : False := by
    obtain ⟨v, finished⟩ := brought.finished
    rw [Store.isPending_iff, finished] at pending
    cases pending
  cases h with
  | resting _ items => exact (item (items w mem)).elim
  | awaiting _ _ work =>
    rcases work with work | work
    · rw [work] at mem
      cases mem
    · rw [work, List.mem_singleton] at mem
      rw [mem]
  | requesting _ work items =>
    rw [work, List.mem_append, List.mem_singleton] at mem
    rcases mem with earlier | rfl
    · exact (item (items w earlier)).elim
    · rfl

theorem countP_le (h : e.Delivers s n last) : e.work.countP s.isPending ≤ 1 := by
  have none {ws : List Nat} (items : ∀ w ∈ ws, s.Brought w) : ws.countP s.isPending = 0 := by
    refine List.countP_eq_zero.mpr fun w hw pending => ?_
    obtain ⟨v, finished⟩ := (items w hw).finished
    rw [Store.isPending_iff, finished] at pending
    cases pending
  cases h with
  | resting _ items => simp [none items]
  | awaiting _ _ work =>
    rcases work with work | work
    · simp [work]
    · rw [work]
      exact List.countP_le_length
  | requesting _ work items =>
    rw [work, List.countP_append, none items, Nat.zero_add]
    exact List.countP_le_length

theorem length_work (h : e.Delivers s n last) : e.work.length ≤ n + 1 := by
  cases h with
  | resting => exact Nat.le_succ _
  | awaiting _ _ work => rcases work with work | work <;> simp [work]
  | requesting _ work => simp [work]

/-- At least as much as has been delivered has been yielded. -/
theorem le_emissions (h : e.Delivers s n last) : n ≤ (e.emissions s).length := by
  cases h with
  | resting kind items =>
    have all : (e.emissions s).length = e.work.length := by
      rw [emissions_substream kind, length_items items]
    exact Nat.le_of_eq all.symm
  | awaiting => exact Nat.zero_le _
  | requesting kind work items =>
    rw [emissions_substream kind, work, List.flatMap_append, List.length_append, length_items items]
    exact Nat.le_add_right ..

/-- A source whose last request has brought the signal for the end is exhausted. -/
theorem exhausted (h : e.Delivers s n (some w)) (kind : e.source.kind ≠ .deferred)
    (finished : s.progress w = .finished v) (last : ∀ tuple u, v ≠ .tuple tuple [.bool false, u]) :
    e.Exhausted s ∧ (e.emissions s).length = n := by
  cases h with
  | awaiting other => exact absurd other kind
  | requesting substream work items =>
    refine ⟨.substream substream work items finished last, ?_⟩
    rw [emissions_substream substream, work, List.flatMap_append, List.length_append,
      length_items items, List.flatMap_singleton, finished, yield_last last]
    rfl

end Delivers

end Accepted

end

namespace ChunkStream

open Accepted (yielded assign)

/-- Sources of which the first may have been begun, and how many chunks of it have been delivered. -/
inductive Begun (s : Store) : List Accepted → Nat → Prop
  | fresh {rest} (fresh : ∀ e ∈ rest, e.work = []) : Begun s rest 0
  | first {e rest m last} (delivers : e.Delivers s m last) (fresh : ∀ e ∈ rest, e.work = []) :
      Begun s (e :: rest) m

/-- The first sources are exhausted, one at most has been begun, and so many chunks have come out. -/
inductive Spread (accepted : List Accepted) (s : Store) (n : Nat) : Prop
  | mk {taken rest m} (split : accepted = taken ++ rest) (exhausted : ∀ e ∈ taken, e.Exhausted s)
      (begun : Begun s rest m) (count : n = yielded s taken + m)

/-- The pace of a stream of which `n` chunks have come out. -/
inductive Pace (accepted : List Accepted) (st : ChunkStream) (s : Store) (n : Nat) : Prop
  | idle {taken} (phase : st.phase = .idle) (iterator : st.iterator = none)
      (split : accepted = taken ++ st.coming)
      (exhausted : ∀ e ∈ taken, e.Exhausted s) (count : n = yielded s taken)
  | draining {taken e m} (phase : st.phase = .draining) (active : st.active = some e.source)
      (iterator : e.source.kind = .substream → st.iterator ≠ none) (split : accepted = taken ++ e :: st.coming) (exhausted : ∀ e ∈ taken, e.Exhausted s)
      (delivers : e.Delivers s m st.inflight) (count : n = yielded s taken + m)
  | past (past : st.phase = .ended ∨ st.Stopped) (inflight : st.inflight = none) (spread : Spread accepted s n)

section

variable {id : Nat} {size : Option Int} {closing : Option (Option Fault)}
  {accepted taken : List Accepted} {e : Accepted} {source : Source} {sources : List Source}
  {st st' : ChunkStream} {s s' : Store} {m n w : Nat} {p : Progress} {fault error : Fault}

theorem fresh_coming (st : ChunkStream) : ∀ e ∈ st.coming, e.work = [] := by
  intro e mem
  obtain ⟨source, -, rfl⟩ := List.mem_map.mp mem
  rfl

theorem exhausted_grows (exhausted : ∀ e ∈ taken, e.Exhausted s) (grows : s.Grows s') :
    (∀ e ∈ taken, e.Exhausted s') ∧ yielded s' taken = yielded s taken := by
  refine ⟨fun e he => ((exhausted e he).grows grows).1, ?_⟩
  unfold yielded
  rw [List.flatMap_def, List.flatMap_def,
    List.map_congr_left fun e he => ((exhausted e he).grows grows).2]

theorem exhausted_snoc (exhausted : ∀ e ∈ taken, e.Exhausted s) (last : e.Exhausted s) :
    ∀ e' ∈ taken ++ [e], e'.Exhausted s := by
  intro e' mem
  rcases List.mem_append.mp mem with before | here
  · exact exhausted e' before
  · rw [List.mem_singleton.mp here]
    exact last

theorem Begun.grows {rest : List Accepted} (h : Begun s rest m) (grows : s.Grows s') :
    Begun s' rest m := by
  cases h with
  | fresh fresh => exact .fresh fresh
  | first delivers fresh => exact .first (delivers.grows grows) fresh

theorem Begun.append {rest new : List Accepted} (h : Begun s rest m) (fresh : ∀ e ∈ new, e.work = []) :
    Begun s (rest ++ new) m := by
  have both {rest : List Accepted} (old : ∀ e ∈ rest, e.work = []) :
      ∀ e ∈ rest ++ new, e.work = [] := by
    intro e mem
    rcases List.mem_append.mp mem with before | behind
    · exact old e before
    · exact fresh e behind
  cases h with
  | fresh old => exact .fresh (both old)
  | first delivers old => exact .first delivers (both old)

theorem Spread.grows (h : Spread accepted s n) (grows : s.Grows s') : Spread accepted s' n := by
  obtain ⟨split, exhausted, begun, count⟩ := h
  obtain ⟨exhausted', same⟩ := exhausted_grows exhausted grows
  exact .mk split exhausted' (begun.grows grows) (by rw [same]; exact count)

theorem Spread.append (h : Spread accepted s n) {new : List Accepted}
    (fresh : ∀ e ∈ new, e.work = []) : Spread (accepted ++ new) s n := by
  obtain ⟨split, exhausted, begun, count⟩ := h
  exact .mk (by rw [split, List.append_assoc]) exhausted (begun.append fresh) count

namespace Pace

theorem spread (h : Pace accepted st s n) : Spread accepted s n := by
  cases h with
  | idle _ _ split exhausted count =>
    exact .mk split exhausted (.fresh (fresh_coming st)) count
  | draining _ _ _ split exhausted delivers count =>
    exact .mk split exhausted (.first delivers (fresh_coming st)) count
  | past _ _ spread => exact spread

theorem grows (h : Pace accepted st s n) (grows : s.Grows s') : Pace accepted st s' n := by
  cases h with
  | idle phase iterator split exhausted count =>
    obtain ⟨exhausted', same⟩ := exhausted_grows exhausted grows
    exact .idle phase iterator split exhausted' (by rw [same]; exact count)
  | draining phase active iterator split exhausted delivers count =>
    obtain ⟨exhausted', same⟩ := exhausted_grows exhausted grows
    exact .draining phase active iterator split exhausted' (delivers.grows grows) (by rw [same]; exact count)
  | past past inflight spread => exact .past past inflight (spread.grows grows)

/-- The pace does not depend on who pulls. -/
theorem pulled (h : Pace accepted st s n) {waiter : Option Nat} {demand : Option Int}
    {pulling : Bool} : Pace accepted { st with waiter, demand, pulling } s n := by
  cases h with
  | idle phase iterator split exhausted count => exact .idle phase iterator split exhausted count
  | draining phase active iterator split exhausted delivers count =>
    exact .draining phase active iterator split exhausted delivers count
  | past past inflight spread => exact .past past inflight spread

end Pace

/-! ### Failing -/

/-- A stream that fails while it drains makes no pace any more. -/
theorem Spread.fails (h : Spread accepted s n) (fails : Fails id fault st s error st' s')
    (phase : st.phase = .draining) : Pace accepted st' s' n := by
  have after := h.grows fails.still.grows
  cases fails with
  | through => exact .past (.inr (.inl rfl)) rfl after
  | cutShort => exact .past (.inr (.inr ⟨phase, rfl, rfl⟩)) rfl after

theorem Pace.fails (h : Pace accepted st s n) (fails : Fails id fault st s error st' s') :
    Pace accepted st' s' n := by
  have after := h.grows fails.still.grows
  cases fails with
  | through => exact .past (.inr (.inl rfl)) rfl after.spread
  | cutShort =>
    cases after with
    | idle phase _ split exhausted count => exact .idle phase rfl split exhausted count
    | draining phase _ _ split exhausted delivers count =>
      exact .past (.inr (.inr ⟨phase, rfl, rfl⟩)) rfl
        (.mk split exhausted (.first delivers (fresh_coming st)) count)
    | past past _ spread =>
      refine .past ?_ rfl spread
      rcases past with ended | errored | ⟨draining, -⟩
      · exact .inl ended
      · exact .inr (.inl errored)
      · exact .inr (.inr ⟨draining, rfl, rfl⟩)

/-! ### Pulling -/

/-- The number of chunks that a result is. -/
def brought : Except Fault (Option Value) → Nat
  | .ok (some _) => 1
  | _ => 0

theorem Settles.pace {r : Except Fault (Option Value)}
    (h : Settles id e.source st.landed s p r st' s') (phase : st.phase = .draining)
    (active : st.active = some e.source)
    (iterator : e.source.kind = .substream → st.iterator ≠ none)
    (split : accepted = taken ++ e :: st.coming) (exhausted : ∀ e ∈ taken, e.Exhausted s)
    (delivers : e.Delivers s m (some w)) (progress : s.progress w = p) :
    Pace accepted st' s' (yielded s taken + m + brought r) := by
  have spread : Spread accepted s (yielded s taken + m) :=
    .mk split exhausted (.first delivers (fresh_coming st)) rfl
  have split' : accepted = (taken ++ [e]) ++ st.coming := by
    rw [split, List.append_assoc]
    rfl
  have released (last : e.Exhausted s) :
      Pace accepted st.landed.released s (yielded s taken + (e.emissions s).length) :=
    .idle rfl rfl split' (exhausted_snoc exhausted last) (by simp)
  cases h with
  | cancelled fails | failed fails | badItem _ _ fails => exact spread.fails fails phase
  | @result v kind emission =>
    cases delivers with
    | awaiting _ slots work =>
      have one : (e.emissions s).length = 1 := by
        rw [Accepted.emissions_deferred slots, progress]
        simp [SourceKind.yield, emission]
      have paced := released (.deferred kind slots work progress)
      rwa [one] at paced
    | requesting other => cases kind.symm.trans other
  | @badResult v _ _ _ kind emission fails =>
    cases delivers with
    | awaiting _ slots work =>
      have none : (e.emissions s).length = 0 := by
        rw [Accepted.emissions_deferred slots, progress]
        simp [SourceKind.yield, emission]
      have paced := released (.deferred kind slots work progress)
      rw [none] at paced
      exact paced.fails fails
    | requesting other => cases kind.symm.trans other
  | @item tuple v kind emission =>
    cases delivers with
    | awaiting other => cases kind other
    | @requesting ws _ substream work items =>
      have brought : s.Brought w := by
        refine ⟨v, ?_⟩
        rw [progress]
        simp [SourceKind.yield, emission]
      have all : ∀ w ∈ e.work, s.Brought w := by
        rw [work]
        intro w' mem
        rcases List.mem_append.mp mem with before | here
        · exact items w' before
        · rw [List.mem_singleton.mp here]
          exact brought
      refine .draining phase active iterator split exhausted (.resting substream all) ?_
      rw [work, List.length_append]
      rfl
  | @exhausted v kind last =>
    obtain ⟨own, yields⟩ := delivers.exhausted kind progress last
    have paced := released own
    rwa [yields] at paced

/-- What was begun to await a source is the only slot of it, or nothing was begun. -/
theorem begun_startAwaiting {v : Value} (begun : (Store.startAwaiting v).run s = (w, s')) :
    s.begun s' = [] ∨ s.begun s' = [w] := by
  unfold Store.startAwaiting at begun
  split at begun
  · cases begun
    exact .inl (Store.begun_of_size rfl)
  · cases begun
    exact .inl (Store.begun_of_size rfl)
  · next c =>
    cases begun
    exact .inr (Store.begun_newTask c none s)
  · next v _ _ _ =>
    cases begun
    exact .inr (Store.begun_newTask s.coroutines.size none ((Store.newCoroutine (.await v)).run s).2)

theorem Serves.pace {r : Except Fault Advance} (h : Serves id size st s r st' s')
    (phase : st.phase = .idle) (iterator : st.iterator = none) (inflight : st.inflight = none)
    (split : accepted = taken ++ st.coming) (exhausted : ∀ e ∈ taken, e.Exhausted s) :
    Pace (assign accepted st'.pending (s.begun s')) st' s'
      (yielded s taken + brought (r.map Advance.chunk?)) := by
  have pace : Pace accepted st s (yielded s taken) := .idle phase iterator split exhausted rfl
  cases h with
  | empty =>
    rw [assign_still (.refl s)]
    exact pace.pulled
  | ended =>
    rw [assign_still (Store.still_woken ..)]
    exact .past (.inl rfl) inflight (pace.grows (Store.still_woken ..).grows).spread
  | closeFault _ _ _ fails =>
    rw [assign_still fails.still]
    exact pace.fails fails
  | @literal source sources queue kind =>
    rw [assign_still (.refl s)]
    have split' : accepted = taken ++ [{ source := source }] ++
        sources.map fun source => { source := source } := by
      rw [split, ChunkStream.coming, queue, List.append_assoc]
      rfl
    have one : (Accepted.emissions s { source := source }).length = 1 := by
      simp [Accepted.emissions, Accepted.slots, kind, Slot.yield]
    refine .idle phase iterator split' (exhausted_snoc exhausted (.literal kind rfl)) ?_
    rw [Accepted.yielded_append, Accepted.yielded_singleton, one]
    rfl
  | @awaiting source sources w s₁ queue kind begun pending =>
    have apart : Apart id [] s s₁ := .startAwaiting begun
    have grows := apart.spares.grows.trans (still_heard s₁ id w).grows
    rw [(still_heard s₁ id w).begun_after apart.spares.grows, assign_coming queue split rfl]
    obtain ⟨exhausted', count⟩ := exhausted_grows exhausted grows
    have slots := Accepted.slots_startAwaiting kind begun
    rw [kind] at slots
    exact .draining rfl rfl (fun other => by cases kind.symm.trans other) rfl exhausted'
      (.awaiting kind slots (begun_startAwaiting begun))
      (by rw [count]; rfl)
  | @settled source sources w s₁ r _ _ queue kind begun pending settles =>
    obtain rfl := startAwaiting_of_settled begun pending
    have heard := (still_heard s₁ id w).trans (Store.still_unheard _ id (some w))
    have still := heard.trans settles.still
    rw [assign_still still]
    have slots := Accepted.slots_startAwaiting kind begun
    rw [Store.begun_of_size rfl, kind] at slots
    rw [map_chunk_chunk?]
    have split' : accepted =
        taken ++ { source } :: (st.activated source sources).coming := by
      rw [split, ChunkStream.coming, queue]
      rfl
    obtain ⟨exhausted', count⟩ := exhausted_grows exhausted heard.grows
    have settled := Settles.pace (e := { source }) settles rfl rfl
      (fun other => by cases kind.symm.trans other) split' exhausted' (.awaiting kind slots (.inl rfl)) (Store.progress_unheard ..)
    rwa [count] at settled
  | @requesting source sources iterator queue kind iterates =>
    have grows := (grows_asked iterator s).trans (still_heard _ id s.futures.size).grows
    rw [begun_requested, assign_coming queue split rfl]
    obtain ⟨exhausted', count⟩ := exhausted_grows exhausted grows
    have delivers := @Accepted.Delivers.requesting ((s.asked iterator).heard id s.futures.size)
      { source, work := [s.futures.size] } [] s.futures.size kind rfl fun _ => List.not_mem_nil.elim
    exact .draining rfl rfl (fun _ => Option.some_ne_none _) rfl exhausted' delivers (by rw [count]; rfl)
  | unusable queue kind iterates ordinary fails =>
    rw [assign_still fails.still]
    exact pace.spread.fails fails rfl
  | escaping =>
    rw [assign_still (.refl s)]
    exact .past (.inr (.inr ⟨rfl, inflight, iterator⟩)) inflight pace.spread

theorem Pace.of_idle (h : Pace accepted st s n) (phase : st.phase = .idle) :
    ∃ taken, st.iterator = none ∧ accepted = taken ++ st.coming ∧ (∀ e ∈ taken, e.Exhausted s) ∧
      n = yielded s taken := by
  cases h with
  | idle _ iterator split exhausted count => exact ⟨_, iterator, split, exhausted, count⟩
  | draining other => cases phase.symm.trans other
  | past past =>
    rcases past with other | other | ⟨other, -⟩ <;> cases phase.symm.trans other

theorem Pace.of_between (h : Pace accepted st s n) (phase : st.phase = .draining)
    (inflight : st.inflight = none) (iterator : st.iterator ≠ none) :
    ∃ taken e, st.active = some e.source ∧ e.source.kind = .substream ∧
      accepted = taken ++ e :: st.coming ∧ (∀ e ∈ taken, e.Exhausted s) ∧
      (∀ w ∈ e.work, s.Brought w) ∧ n = yielded s taken + e.work.length := by
  cases h with
  | draining _ active _ split exhausted delivers count =>
    rw [inflight] at delivers
    cases delivers with
    | resting kind items => exact ⟨_, _, active, kind, split, exhausted, items, count⟩
  | idle other => cases phase.symm.trans other
  | past past =>
    rcases past with other | other | ⟨-, -, none⟩
    · cases phase.symm.trans other
    · cases phase.symm.trans other
    · exact absurd none iterator

theorem Pace.of_inflight (h : Pace accepted st s n) (phase : st.phase = .draining)
    (inflight : st.inflight = some w) :
    ∃ taken e m, st.active = some e.source ∧ (e.source.kind = .substream → st.iterator ≠ none) ∧
      accepted = taken ++ e :: st.coming ∧ (∀ e ∈ taken, e.Exhausted s) ∧
      e.Delivers s m (some w) ∧ n = yielded s taken + m := by
  cases h with
  | draining _ active iterator split exhausted delivers count =>
    rw [inflight] at delivers
    exact ⟨_, _, _, active, iterator, split, exhausted, delivers, count⟩
  | idle other => cases phase.symm.trans other
  | past _ none => cases inflight.symm.trans none

/-- An advance keeps the pace: a chunk that comes out counts. -/
theorem Advances.pace {r : Except Fault Advance} (h : Advances id size st s r st' s')
    (pace : Pace accepted st s n) (calm : st.Calm) :
    Pace (assign accepted st'.pending (s.begun s')) st' s'
      (n + brought (r.map Advance.chunk?)) := by
  cases h with
  | errored | past | adrift =>
    rw [assign_still (.refl s)]
    exact pace
  | idle phase serves =>
    obtain ⟨taken, iterator, split, exhausted, rfl⟩ := pace.of_idle phase
    exact serves.pace phase iterator (calm phase) split exhausted
  | @requesting it phase inflight iterator =>
    have some : st.iterator ≠ none := iterator ▸ Option.some_ne_none it
    obtain ⟨taken, e, active, kind, split, exhausted, items, rfl⟩ := pace.of_between phase inflight some
    have grows := (grows_asked it s).trans (still_heard _ id s.futures.size).grows
    rw [assign_requested it split]
    obtain ⟨exhausted', yields⟩ := exhausted_grows exhausted grows
    have delivers : Accepted.Delivers ((s.asked it).heard id s.futures.size)
        { e with work := e.work ++ [s.futures.size] } _ _ :=
      .requesting kind rfl fun w hw => (items w hw).grows grows
    exact .draining (e := { e with work := e.work ++ [s.futures.size] }) phase active
      (fun _ => some) rfl exhausted' delivers (by rw [yields]; rfl)
  | @pending w phase inflight =>
    rw [assign_still (.refl s)]
    have same : st.launched size w = { st with demand := size } := by
      unfold launched
      rw [← inflight]
    rw [same]
    exact pace.pulled
  | orphaned phase inflight _ active =>
    obtain ⟨_, _, _, some, -⟩ := pace.of_inflight phase inflight
    cases active.symm.trans some
  | @settled w source r _ _ phase inflight pending active settles =>
    obtain ⟨taken, e, m, some, iterator, split, exhausted, delivers, rfl⟩ :=
      pace.of_inflight phase inflight
    cases active.symm.trans some
    rw [assign_still ((Store.still_unheard ..).trans settles.still)]
    rw [map_chunk_chunk?]
    have grows := (Store.still_unheard s id (Option.some w)).grows
    obtain ⟨exhausted', count⟩ := exhausted_grows exhausted grows
    have settled := settles.pace phase active iterator split exhausted' (delivers.grows grows)
      (Store.progress_unheard ..)
    rwa [count] at settled
  | @passed w source _ _ r _ _ phase inflight pending active settles serves =>
    obtain ⟨taken, e, m, some, iterator, split, exhausted, delivers, rfl⟩ :=
      pace.of_inflight phase inflight
    cases active.symm.trans some
    have grows := (Store.still_unheard s id (Option.some w)).grows
    obtain ⟨exhausted', count⟩ := exhausted_grows exhausted grows
    have passed := settles.pace phase active iterator split exhausted' (delivers.grows grows)
      (Store.progress_unheard ..)
    obtain ⟨rfl, rfl, -⟩ := settles.of_none
    -- The source that is exhausted has delivered nothing more; the next one goes on from there.
    obtain ⟨taken', none, split', exhausted'', yields⟩ := passed.of_idle rfl
    have served := serves.pace rfl none rfl split' exhausted''
    rw [Store.begun_congr (Store.still_unheard s id (Option.some w)).size, ← yields, count] at served
    exact served

end

end ChunkStream

end StreamTemplate
