import StreamTemplate.Proofs.Loop.Pull
import StreamTemplate.Proofs.Text.Codec

/-!
# Reading a stream of literals

A stream that was closed with nothing but texts and byte strings in it is read without a wait, so
what a call that reads all of it comes to is a function of the chunks. Reading it as bytes always
works. Reading it as text reads each byte string by itself: that works exactly if all of them are
texts, and then the text is what the bytes of the whole stream stand for. A stream whose bytes are a
text but are cut inside a character is not read.
-/

namespace StreamTemplate

open Text

/-! ### What comes out of the stream -/

/-- The stream holds these literals, one after the other, takes no more input and is not being
read. -/
structure ChunkStream.Holds (st : ChunkStream) (chunks : List Value) : Prop where
  phase : st.phase = .idle
  closed : st.closed = true
  closeFault : st.closeFault = none
  pulling : st.pulling = false
  waiter : st.waiter = none
  queue : st.queue.toList = chunks.map (⟨.literal, ·⟩)

namespace ChunkStream

variable {id : Nat} {size : Option Int} {st : ChunkStream} {s : Store} {chunk : Value}
  {chunks : List Value}

theorem Holds.tail (h : st.Holds (chunk :: chunks)) :
    ({ st with
      queue := .ofList (chunks.map (⟨.literal, ·⟩)), pulling := false, demand := none } :
      ChunkStream).Holds chunks :=
  ⟨h.phase, h.closed, h.closeFault, rfl, h.waiter, rfl⟩

theorem Holds.begun (h : st.Holds chunks) (s : Store) :
    (beginPull : StreamM (StateM Store) Unit).does st s = (.ok (), { st with pulling := true }, s) := by
  unfold beginPull
  simp [StreamM.does_bind, h.pulling]

theorem does_advance_cons (phase : st.phase = .idle)
    (queue : st.queue.toList = (chunk :: chunks).map (⟨.literal, ·⟩)) :
    (advance (Store.surroundings id) size).does st s =
      (.ok (.chunk (s.heap.normalize chunk)),
        { st with queue := .ofList (chunks.map (⟨.literal, ·⟩)) }, s) := by
  unfold advance
  simp only [StreamM.does_bind, StreamM.does_get, StreamM.andThen_ok, phase, queue, List.map_cons,
    next, StreamM.does_modify, if_true]
  rfl

theorem does_advance_nil (phase : st.phase = .idle) (queue : st.queue.toList = [])
    (closed : st.closed = true) (closeFault : st.closeFault = none) (waiter : st.waiter = none) :
    (advance (Store.surroundings id) size).does st s = (.ok .ended, { st with phase := .ended }, s) := by
  unfold advance
  simp only [StreamM.does_bind, StreamM.does_get, StreamM.andThen_ok, phase, queue, next, closed, finish,
    closeFault, if_true, StreamM.does_modify, does_wake, waiter]
  rfl

variable {st' : ChunkStream} {chunk? : Option Value} {advance : Advance}

/-- A pull that need not wait takes what the stream advances to. -/
theorem upTo_pull (there : s.streams[id]? = some st) (holds : st.Holds chunks)
    (does : (ChunkStream.advance (Store.surroundings id) none).does { st with pulling := true }
      (s.setStream id { st with pulling := true }) =
      (.ok advance, st', s.setStream id { st with pulling := true }))
    (delivers : (advance = .ended ∧ chunk? = none) ∨ ∃ v, advance = .chunk v ∧ chunk? = some v) :
    (pull id none).upTo s =
      (.done (.ok chunk?), s.setStream id { st' with pulling := false, demand := none }) := by
  have lt := (Array.getElem?_eq_some_iff.mp there).1
  obtain ⟨rounds, patience_eq⟩ := Pull.exists_patience_eq
  have begins : (Run.act (Store.onStream id fun _ => beginPull)).upTo s =
      (.done (.ok ()), s.setStream id { st with pulling := true }) :=
    Run.upTo_onStream there (holds.begun s)
  have begun := Store.streams_setStream { st with pulling := true } lt
  have lt₁ := (Array.getElem?_eq_some_iff.mp begun).1
  have within : (pullWithin id none patience).upTo (s.setStream id { st with pulling := true }) =
      (.done (.ok chunk?), s.setStream id st') := by
    have stops := Pull.upTo_pullWithin rounds begun lt₁ does
    rw [patience_eq, stops]
    rcases delivers with ⟨rfl, rfl⟩ | ⟨v, rfl, rfl⟩ <;> simp only [Pull.stops, Store.setStream_setStream]
  have left : (Run.act (Store.onStream id fun _ => endPull)).upTo (s.setStream id st') =
      (.done (.ok ()), s.setStream id { st' with pulling := false, demand := none }) := by
    rw [← Store.setStream_setStream s id st' { st' with pulling := false, demand := none }]
    exact Run.upTo_onStream (Store.streams_setStream st' lt) rfl
  unfold pull
  rw [Run.upTo_bind_ok _ begins, Run.upTo_bind_ok _ (Run.upTo_attempt_done
    (Run.upTo_ensuring_done within left))]
  rfl

/-- Going on with a loop over the chunks takes the next one. -/
theorem upTo_pullInLoop_cons (there : s.streams[id]? = some st) (holds : st.Holds (chunk :: chunks)) :
    ∃ st', st'.Holds chunks ∧ (pullInLoop id).upTo s =
      (.done (.ok (some (s.heap.normalize chunk))), s.setStream id st') := by
  refine ⟨_, holds.tail, ?_⟩
  unfold pullInLoop
  rw [Run.upTo_bind_ok _ (Run.upTo_attempt_done
    (upTo_pull there holds (does_advance_cons holds.phase holds.queue) (.inr ⟨_, rfl, rfl⟩)))]
  rfl

/-- Behind the last chunk the loop ends. -/
theorem upTo_pullInLoop_nil (there : s.streams[id]? = some st) (holds : st.Holds []) :
    ∃ st', (pullInLoop id).upTo s = (.done (.ok none), s.setStream id st') := by
  refine ⟨{ st with phase := .ended, pulling := false, demand := none }, ?_⟩
  unfold pullInLoop
  rw [Run.upTo_bind_ok _ (Run.upTo_attempt_done
    (upTo_pull there holds
      (does_advance_nil holds.phase holds.queue holds.closed holds.closeFault holds.waiter)
      (.inl ⟨rfl, rfl⟩)))]
  rfl

section

variable {α : Type} (f : Heap → Value → Except Fault α)

/-- What a function makes of the chunks of a stream of literals, or its first fault. -/
theorem upTo_gatherOnto {rounds : Nat} (short : chunks.length < rounds) (parts : List α)
    (there : s.streams[id]? = some st) (holds : st.Holds chunks) :
    ∃ st', (gatherOnto id f parts rounds).upTo s =
      (.done ((chunks.mapM fun v => f s.heap (s.heap.normalize v)).map (·.reverse ++ parts)),
        s.setStream id st') := by
  induction chunks generalizing s st parts rounds with
  | nil =>
    obtain ⟨rounds, rfl⟩ := Nat.exists_eq_succ_of_ne_zero (Nat.ne_zero_of_lt short)
    obtain ⟨st', pulled⟩ := upTo_pullInLoop_nil there holds
    exact ⟨st', Run.upTo_bind_ok _ pulled⟩
  | cons chunk chunks ih =>
    obtain ⟨rounds, rfl⟩ := Nat.exists_eq_succ_of_ne_zero (Nat.ne_zero_of_lt short)
    obtain ⟨st₁, holds₁, pulled⟩ := upTo_pullInLoop_cons there holds
    have there₁ := Store.streams_setStream st₁ (Array.getElem?_eq_some_iff.mp there).1
    have viewed : (Run.act (Act.view (f · (s.heap.normalize chunk)))).upTo (s.setStream id st₁) =
      (.done (f s.heap (s.heap.normalize chunk)), s.setStream id st₁) := rfl
    rw [List.mapM_cons]
    unfold gatherOnto
    rw [Run.upTo_bind_ok _ pulled]
    cases made : f s.heap (s.heap.normalize chunk) with
    | error e =>
      rw [made] at viewed
      exact ⟨st₁, Run.upTo_bind_error _ viewed⟩
    | ok part =>
      rw [made] at viewed
      obtain ⟨st', rest⟩ := ih (Nat.lt_of_succ_lt_succ short) (part :: parts) there₁ holds₁
      refine ⟨st', ?_⟩
      dsimp only
      rw [Run.upTo_bind_ok _ viewed, rest, Store.setStream_setStream]
      show (Halted.done (((chunks.mapM fun v => f s.heap (s.heap.normalize v)).map
        (·.reverse ++ part :: parts))), _) = _
      cases chunks.mapM fun v => f s.heap (s.heap.normalize v) <;>
        simp [bind, Except.bind, pure, Except.pure, Except.map]

/-- What is made of all the chunks together, unless there is a fault. -/
theorem upTo_gather {k : List α → Value} (short : chunks.length < patience)
    (there : s.streams[id]? = some st) (holds : st.Holds chunks) :
    ∃ st', (gather id f >>= fun made => pure (k made)).upTo s =
      (.done ((chunks.mapM fun v => f s.heap (s.heap.normalize v)).map k), s.setStream id st') := by
  obtain ⟨st', gathered⟩ := upTo_gatherOnto f short [] there holds
  refine ⟨st', ?_⟩
  unfold gather
  rw [bind_assoc]
  cases made : chunks.mapM fun v => f s.heap (s.heap.normalize v) with
  | error e =>
    rw [made] at gathered
    exact Run.upTo_bind_error _ gathered
  | ok parts =>
    rw [made] at gathered
    rw [Run.upTo_bind_ok _ gathered]
    show (Halted.done (Except.ok (k (parts.reverse ++ []).reverse)), _) = _
    rw [List.append_nil, List.reverse_reverse]
    rfl

end

end ChunkStream

/-! ### What is made of the chunks -/

namespace Heap

variable (heap : Heap) {v : Value}

/-- The bytes that a literal stands for: those of a byte string, or those of a text in UTF-8. -/
def utf8 : Value → List UInt8
  | .text s => s.toList.flatMap utf8Char
  | v => (heap.bytes? v).getD []

/-- A byte string that counts as false is emitted as an empty one, every other literal as it is. -/
theorem normalize_cases (literal : v.isLiteral) :
    heap.normalize v = v ∨ heap.utf8 v = [] ∧ heap.normalize v = .binary .bytes [] := by
  unfold normalize
  by_cases truth : heap.truth v
  · exact .inl (if_pos truth)
  rw [if_neg truth]
  unfold Value.isLiteral at literal
  split at literal
  next s =>
    have empty : s = "" := by simpa [Heap.truth] using truth
    exact .inl (by rw [empty]; rfl)
  next kind data =>
    have empty : data = [] := by simpa [Heap.truth] using truth
    exact .inr ⟨empty, rfl⟩
  next id =>
    have empty : heap.byteArray id = #[] := by simpa [Heap.truth] using truth
    refine .inr ⟨?_, rfl⟩
    show (heap.byteArray id).toList = []
    rw [empty]
  next => cases literal

theorem chunkBytes_normalize (literal : v.isLiteral) :
    chunkBytes "utf-8" heap (heap.normalize v) = .ok (heap.utf8 v) := by
  rcases heap.normalize_cases literal with same | ⟨empty, same⟩
  · rw [same]
    cases v <;> rfl
  · rw [same, empty]
    rfl

/-- The text that is made of a literal is the one that its bytes stand for. -/
theorem chunkText_normalize (literal : v.isLiteral) :
    chunkText "utf-8" heap (heap.normalize v) =
      (decodeNamed "utf-8" (heap.utf8 v)).mapError codecFault := by
  rcases heap.normalize_cases literal with same | ⟨empty, same⟩
  · rw [same]
    cases v with
    | text s =>
      have read : decodeNamed "utf-8" (heap.utf8 (.text s)) = .ok s := decodeNamed_utf8.mpr rfl
      rw [read]
      rfl
    | _ => rfl
  · rw [same, empty]
    rfl

end Heap

/-! ### Reading -/

section Traversal

variable {ε α β : Type} {f : α → Except ε β} {a : α} {as : List α} {b : β} {e : ε}

theorem mapM_cons_of_ok (here : f a = .ok b) :
    (a :: as).mapM f = (as.mapM f).map (b :: ·) := by
  rw [List.mapM_cons, here]
  rfl

theorem mapM_cons_of_error (here : f a = .error e) : (a :: as).mapM f = .error e := by
  rw [List.mapM_cons, here]
  rfl

theorem mapM_of_forall_ok {g : α → β} (h : ∀ a ∈ as, f a = .ok (g a)) : as.mapM f = .ok (as.map g) := by
  induction as with
  | nil => rfl
  | cons a as ih =>
    rw [mapM_cons_of_ok (h a (.head _)), ih fun a mem => h a (.tail _ mem)]
    rfl

/-- A traversal that words its faults in another way. -/
theorem mapM_mapError {γ ε' : Type} {f' : γ → Except ε' β} {g : α → γ} {word : ε' → ε}
    (h : ∀ a ∈ as, f a = (f' (g a)).mapError word) :
    as.mapM f = ((as.map g).mapM f').mapError word := by
  induction as with
  | nil => rfl
  | cons a as ih =>
    have here := h a (.head _)
    have rest := ih fun a mem => h a (.tail _ mem)
    rw [List.map_cons]
    cases made : f' (g a) with
    | error e =>
      rw [made] at here
      rw [mapM_cons_of_error here, mapM_cons_of_error made]
      rfl
    | ok b =>
      rw [made] at here
      rw [mapM_cons_of_ok here, mapM_cons_of_ok made, rest]
      cases (as.map g).mapM f' <;> rfl

/-- A traversal fails at the first element that fails. -/
theorem mapM_eq_error_iff :
    as.mapM f = .error e ↔ ∃ before a after, as = before ++ a :: after ∧
      (∀ a ∈ before, ∃ b, f a = .ok b) ∧ f a = .error e := by
  constructor
  · intro h
    induction as with
    | nil => cases h
    | cons a as ih =>
      cases here : f a with
      | error e' =>
        rw [mapM_cons_of_error here] at h
        cases h
        exact ⟨[], a, as, rfl, nofun, here⟩
      | ok b =>
        rw [mapM_cons_of_ok here] at h
        cases rest : as.mapM f with
        | ok bs =>
          rw [rest] at h
          cases h
        | error e' =>
          rw [rest] at h
          cases h
          obtain ⟨before, a', after, rfl, fine, fails⟩ := ih rest
          exact ⟨a :: before, a', after, rfl, List.forall_mem_cons.mpr ⟨⟨b, here⟩, fine⟩, fails⟩
  · rintro ⟨before, a, after, rfl, fine, fails⟩
    induction before with
    | nil => exact mapM_cons_of_error fails
    | cons first before ih =>
      obtain ⟨⟨b, here⟩, fine⟩ := List.forall_mem_cons.mp fine
      rw [List.cons_append, mapM_cons_of_ok here, ih fine]
      rfl

end Traversal

section Pieces

variable {pieces : List (List UInt8)} {texts : List String} {text : String}

/-- Texts that are read piece by piece are what the pieces stand for together. -/
theorem flatten_of_mapM (h : pieces.mapM (decodeNamed "utf-8") = .ok texts) :
    (∀ piece ∈ pieces, ∃ t, decodeNamed "utf-8" piece = .ok t) ∧
      pieces.flatten = (String.join texts).toList.flatMap utf8Char := by
  induction pieces generalizing texts with
  | nil =>
    cases h
    exact ⟨nofun, rfl⟩
  | cons piece pieces ih =>
    cases here : decodeNamed "utf-8" piece with
    | error e =>
      rw [mapM_cons_of_error here] at h
      cases h
    | ok t =>
      rw [mapM_cons_of_ok here] at h
      cases rest : pieces.mapM (decodeNamed "utf-8") with
      | error e =>
        rw [rest] at h
        cases h
      | ok ts =>
        rw [rest] at h
        cases h
        obtain ⟨fine, joined⟩ := ih rest
        refine ⟨List.forall_mem_cons.mpr ⟨⟨t, here⟩, fine⟩, ?_⟩
        rw [List.flatten_cons, joined, decodeNamed_utf8.mp here]
        simp [String.toList_join]

/-- Pieces that are read one by one make up a text exactly if each of them is a text and the text is
what they stand for together. -/
theorem joined_eq_ok_iff :
    (pieces.mapM (decodeNamed "utf-8")).map String.join = .ok text ↔
      (∀ piece ∈ pieces, ∃ t, decodeNamed "utf-8" piece = .ok t) ∧
        decodeNamed "utf-8" pieces.flatten = .ok text := by
  rw [decodeNamed_utf8]
  cases read : pieces.mapM (decodeNamed "utf-8") with
  | error e =>
    obtain ⟨before, piece, after, rfl, -, fails⟩ := mapM_eq_error_iff.mp read
    refine iff_of_false nofun fun ⟨fine, _⟩ => ?_
    obtain ⟨t, reads⟩ := fine piece (by simp)
    rw [fails] at reads
    cases reads
  | ok texts =>
    obtain ⟨fine, joined⟩ := flatten_of_mapM read
    show Except.ok (String.join texts) = .ok text ↔ _
    rw [and_iff_right fine, joined, Except.ok.injEq, flatMap_utf8Char_injective.eq_iff, String.toList_inj]

end Pieces

namespace ChunkStream

variable {id : Nat} {st : ChunkStream} {s : Store} {chunks : List Value}

/-- What a stream of literals is read as. As bytes it is what its chunks stand for, put together. As
text it is read chunk by chunk: that works exactly if the bytes of each chunk are a text by
themselves, and comes to the text that all the bytes stand for; otherwise the first chunk that is
none is what is wrong. -/
theorem consume_literals (there : s.streams[id]? = some st) (holds : st.Holds chunks)
    (literal : ∀ v ∈ chunks, v.isLiteral) (short : chunks.length < patience) :
    ∃ pieces s₁ result s₂, pieces = chunks.map s.heap.utf8 ∧
      (consume id (.readBytes "utf-8")).upTo s =
        (.done (.ok (.binary .bytes pieces.flatten)), s₁) ∧
      (consume id (.readText "utf-8")).upTo s = (.done result, s₂) ∧
      (∀ text, result = .ok (.text text) ↔
        (∀ piece ∈ pieces, ∃ t, decodeNamed "utf-8" piece = .ok t) ∧
          decodeNamed "utf-8" pieces.flatten = .ok text) ∧
      ∀ fault, result = .error fault ↔ ∃ before piece after e, pieces = before ++ piece :: after ∧
        (∀ piece ∈ before, ∃ t, decodeNamed "utf-8" piece = .ok t) ∧
          decodeNamed "utf-8" piece = .error e ∧ fault = codecFault e := by
  obtain ⟨st₁, bytes⟩ := upTo_gather (chunkBytes "utf-8")
    (k := fun parts => .binary .bytes parts.flatten) short there holds
  obtain ⟨st₂, text⟩ := upTo_gather (chunkText "utf-8")
    (k := fun parts => .text (String.join parts)) short there holds
  rw [mapM_of_forall_ok fun v mem => s.heap.chunkBytes_normalize (literal v mem)] at bytes
  rw [mapM_mapError fun v mem => s.heap.chunkText_normalize (literal v mem)] at text
  refine ⟨chunks.map s.heap.utf8, _, _, _, rfl, bytes, text, fun joined => ?_, fun fault => ?_⟩
  · rw [← joined_eq_ok_iff]
    cases (chunks.map s.heap.utf8).mapM (decodeNamed "utf-8") with
    | error e => exact iff_of_false nofun nofun
    | ok texts =>
      show Except.ok (Value.text (String.join texts)) = .ok (.text joined) ↔
        Except.ok (String.join texts) = .ok joined
      simp only [Except.ok.injEq, Value.text.injEq]
  · have worded (read : Except CodecError (List String)) :
        (read.mapError codecFault).map (fun parts => Value.text (String.join parts)) = .error fault ↔
          ∃ e, read = .error e ∧ fault = codecFault e := by
      cases read with
      | error e =>
        show Except.error (codecFault e) = .error fault ↔ _
        simp [eq_comm]
      | ok texts => exact iff_of_false nofun nofun
    rw [worded]
    simp only [mapM_eq_error_iff]
    constructor
    · rintro ⟨e, ⟨before, piece, after, split, fine, fails⟩, same⟩
      exact ⟨before, piece, after, e, split, fine, fails, same⟩
    · rintro ⟨before, piece, after, e, split, fine, fails, same⟩
      exact ⟨e, ⟨before, piece, after, split, fine, fails⟩, same⟩

/-- A character of two bytes, whose bytes come in two chunks, can be read as bytes but not as text. -/
theorem split_character_unread : ∃ (s : Store) (st : ChunkStream) (chunks : List Value),
    s.streams[0]? = some st ∧ st.Holds chunks ∧ (∀ v ∈ chunks, v.isLiteral) ∧
      chunks.length < patience ∧ decodeNamed "utf-8" [0xC3, 0xA9] = .ok "é" ∧
      ∃ s₁ s₂ e,
        (consume 0 (.readBytes "utf-8")).upTo s = (.done (.ok (.binary .bytes [0xC3, 0xA9])), s₁) ∧
        (consume 0 (.readText "utf-8")).upTo s = (.done (.error (codecFault e)), s₂) ∧
        e.message = "'utf-8' codec can't decode byte 0xc3 in position 0: unexpected end of data" := by
  let chunks : List Value := [.binary .bytes [0xC3], .binary .bytes [0xA9]]
  let st : ChunkStream := { queue := .ofList (chunks.map (⟨.literal, ·⟩)), closed := true }
  let s : Store := { streams := #[st] }
  have holds : st.Holds chunks := ⟨rfl, rfl, rfl, rfl, rfl, rfl⟩
  have literal : ∀ v ∈ chunks, v.isLiteral := by simp [chunks, Value.isLiteral]
  have short : chunks.length < patience := by decide
  obtain ⟨pieces, s₁, result, s₂, rfl, bytes, text, -, failed⟩ :=
    @consume_literals 0 st s chunks rfl holds literal short
  obtain ⟨e, fails, message⟩ : ∃ e, decodeNamed "utf-8" [0xC3] = .error e ∧
      e.message = "'utf-8' codec can't decode byte 0xc3 in position 0: unexpected end of data" :=
    ⟨_, rfl, by decide⟩
  obtain rfl : result = .error (codecFault e) :=
    (failed (codecFault e)).mpr ⟨[], [0xC3], [[0xA9]], e, rfl, nofun, fails, rfl⟩
  exact ⟨s, st, chunks, rfl, holds, literal, short, decodeNamed_utf8.mpr (by decide), s₁, s₂, e, bytes,
    text, message⟩

end ChunkStream

end StreamTemplate
