import StreamTemplate.Operation.Arithmetic
import StreamTemplate.Operation.Member
import StreamTemplate.Proofs.Loop.Conduct

/-!
# What operations on values do

Building values from recipes, going through them and changing them is in every conduct: whatever is
not done on the heap makes coroutines, generators and futures, or asks what has become of them.
-/

namespace StreamTemplate

open Act

variable {gives : Progress → Prop} {C : ConductGiving gives}

/-! ### Building values -/

mutual

theorem obeys_build : (r : Recipe) → Obeys C r.build
  | .none | .bool _ | .int _ | .text _ | .binary .. => by
    simp only [Recipe.build]
    exact obeys_pure _
  | .float _ | .byteArray _ | .awaitable _ | .asyncItems _ | .asyncBoth .. | .badAsyncIterable none
  | .generator _ | .function _ => by
    simp only [Recipe.build]
    exact obeys_work _
  | .list items => by
    simp only [Recipe.build]
    exact (obeys_buildAll items).bind fun _ => obeys_work _
  | .tuple items => by
    simp only [Recipe.build]
    exact (obeys_buildAll items).bind fun _ => obeys_work _
  | .dict entries => by
    simp only [Recipe.build]
    exact (obeys_buildEntries entries).bind fun _ => obeys_work _
  | .coroutine _ => by
    simp only [Recipe.build]
    exact (obeys_always (Store.obeys_newCoroutine _)).bind fun _ => obeys_pure _
  | .asyncGenerator _ => by
    simp only [Recipe.build]
    exact (obeys_always (Store.obeys_newGenerator _)).bind fun _ => obeys_pure _
  | .task _ => by
    simp only [Recipe.build]
    refine (obeys_always (Store.obeys_newCoroutine _)).bind fun _ => ?_
    exact (obeys_always (Store.obeys_newTask _ _)).bind fun _ => obeys_pure _
  | .gate name => by
    simp only [Recipe.build]
    exact (obeys_always (Store.obeys_gate name)).bind fun _ => obeys_pure _
  | .badAsyncIterable (some fault) => by
    simp only [Recipe.build]
    exact (obeys_prepare fault).bind fun _ => obeys_work _
  | .object attrs => by
    simp only [Recipe.build]
    exact (obeys_buildNamed attrs).bind fun _ => obeys_work _
  | .unprintable fault => by
    simp only [Recipe.build]
    exact (obeys_prepare fault).bind fun _ => obeys_work _
  | .shared _ => by
    simp only [Recipe.build]
    exact Act.obeys_get.bind fun _ => obeys_pure _

theorem obeys_buildAll : (rs : List Recipe) → Obeys C (buildAll rs)
  | [] => by
    simp only [buildAll]
    exact obeys_pure _
  | r :: rest => by
    simp only [buildAll]
    exact (obeys_build r).bind fun _ => (obeys_buildAll rest).bind fun _ => obeys_pure _

theorem obeys_buildEntries : (rs : List (Recipe × Recipe)) → Obeys C (buildEntries rs)
  | [] => by
    simp only [buildEntries]
    exact obeys_pure _
  | (key, value) :: rest => by
    simp only [buildEntries]
    refine (obeys_build key).bind fun _ => (obeys_build value).bind fun _ => ?_
    exact (obeys_buildEntries rest).bind fun _ => obeys_pure _

theorem obeys_buildNamed : (rs : List (String × Recipe)) → Obeys C (buildNamed rs)
  | [] => by
    simp only [buildNamed]
    exact obeys_pure _
  | (_, value) :: rest => by
    simp only [buildNamed]
    exact (obeys_build value).bind fun _ => (obeys_buildNamed rest).bind fun _ => obeys_pure _

theorem obeys_buildFault : (r : FaultRecipe) → Obeys C r.build
  | .mk cls args => by
    simp only [FaultRecipe.build]
    exact (obeys_buildAll args).bind fun _ => obeys_view _

theorem obeys_prepare : (r : FaultRecipe) → Obeys C r.prepare
  | .mk cls args => by
    simp only [FaultRecipe.prepare]
    refine (obeys_attempt (obeys_buildFault (.mk cls args))).bind fun r => ?_
    cases r with
    | ok fault => exact obeys_pure _
    | error fault => exact obeys_pure _

end

theorem obeys_produce (item : Item) : Obeys C item.produce := by
  cases item with
  | value v => exact obeys_build v
  | fault f => exact (obeys_buildFault f).bind fun _ => obeys_throw _

namespace Act

/-! ### Going through values -/

theorem obeys_cursor? (v : Value) : Obeys C (cursor? v) := by
  refine obeys_heap.bind fun heap => ?_
  dsimp only
  split <;> exact obeys_pure _

theorem obeys_cursor (v : Value) : Obeys C (cursor v) := by
  refine (obeys_cursor? v).bind fun c => ?_
  cases c with
  | some c => exact obeys_pure _
  | none => exact obeys_fail _

theorem obeys_generate (id : Nat) : Obeys C (generate id) := by
  refine obeys_heap.bind fun heap => ?_
  split
  · refine (obeys_attempt (obeys_produce _)).bind fun r => ?_
    cases r with
    | ok v => exact (obeys_work _).bind fun _ => obeys_pure _
    | error fault => exact (obeys_work _).bind fun _ => obeys_throw _
  · exact obeys_pure _

theorem obeys_claim (kind : ProcessKind) (id : Nat) : Obeys C (claim kind id) := by
  refine Act.obeys_get.bind fun s => ?_
  split
  · refine Obeys.bind (obeys_always ?_) fun _ => obeys_pure _
    exact Store.obeys_modifyFuture id (fun _ => rfl) (fun _ => rfl) fun _ => rfl
  · exact (obeys_ofExcept _).bind fun _ => obeys_pure _

theorem obeys_advance (c : Cursor) : Obeys C (advance c) := by
  unfold advance
  split
  · exact obeys_pure _
  · exact obeys_pure _
  · exact obeys_heap.bind fun _ => obeys_pure _
  · exact obeys_heap.bind fun _ => obeys_pure _
  · next view id place left used =>
    refine obeys_heap.bind fun heap => ?_
    extract_lets entries shown
    have shown (u : Unit) : Obeys C (shown u) := by
      dsimp only [shown]
      split
      · exact obeys_pure _
      · split
        · exact (obeys_fail _).bind fun _ => (obeys_work _).bind fun _ => obeys_pure _
        · exact (obeys_work _).bind fun _ => obeys_pure _
    split
    · exact (obeys_fail _).bind shown
    · exact shown ()
  · exact obeys_pure _
  · exact obeys_pure _
  · exact (obeys_generate _).bind fun _ => obeys_pure _
  · exact (obeys_claim _ _).bind fun _ => obeys_pure _

theorem obeys_take (limit : Nat) (c : Cursor) : Obeys C (take limit c) := by
  induction limit generalizing c with
  | zero => exact obeys_pure _
  | succ limit ih =>
    unfold take
    refine (obeys_advance c).bind fun next => ?_
    split
    · exact obeys_pure _
    · exact (ih _).bind fun _ => obeys_pure _

theorem obeys_boundOf (c : Cursor) : Obeys C (boundOf c) := by
  have rest (size : Nat) : Obeys C (do
      if size > memberLimit then fail .outOfMemory
      return size : Act Nat) := by
    split
    · exact (obeys_fail _).bind fun _ => obeys_pure _
    · exact obeys_pure _
  refine obeys_heap.bind fun heap => ?_
  dsimp only
  split
  · exact (obeys_fail _).bind fun _ => rest _
  · exact rest _

theorem obeys_drain (c : Cursor) : Obeys C (drain c) :=
  (obeys_boundOf c).bind fun _ => (obeys_take _ c).bind fun _ => obeys_pure _

theorem obeys_members (v : Value) : Obeys C (members v) :=
  (obeys_cursor v).bind obeys_drain

theorem obeys_takeUntilFault (limit : Nat) (c : Cursor) : Obeys C (takeUntilFault limit c) := by
  induction limit generalizing c with
  | zero => exact obeys_pure _
  | succ limit ih =>
    unfold takeUntilFault
    refine (obeys_attempt (obeys_advance c)).bind fun next => ?_
    split
    · exact obeys_pure _
    · exact obeys_pure _
    · exact (ih _).bind fun _ => obeys_pure _

theorem obeys_extend (id : Nat) (v : Value) : Obeys C (extend id v) := by
  unfold extend
  split
  · exact obeys_heap.bind fun _ => obeys_work _
  · exact obeys_heap.bind fun _ => obeys_heap.bind fun _ => obeys_work _
  · refine (obeys_cursor _).bind fun c => (obeys_boundOf c).bind fun _ => ?_
    refine (obeys_takeUntilFault _ c).bind fun more => obeys_heap.bind fun _ => ?_
    refine (obeys_work _).bind fun _ => ?_
    split
    · exact obeys_throw _
    · exact obeys_pure _

theorem obeys_holds (limit : Nat) (v : Value) (c : Cursor) : Obeys C (holds limit v c) := by
  induction limit generalizing c with
  | zero => exact obeys_pure _
  | succ limit ih =>
    unfold holds
    refine (obeys_advance c).bind fun next => ?_
    split
    · exact obeys_pure _
    · refine (obeys_work _).bind fun same => ?_
      split
      · exact obeys_pure _
      · exact ih _

theorem obeys_unpack (count : Nat) (v : Value) : Obeys C (unpack count v) := by
  refine (obeys_cursor? v).bind fun c => ?_
  split
  · exact obeys_fail _
  · refine (obeys_take count _).bind fun parts => ?_
    dsimp -zeta only
    extract_lets rest
    have rest (u : Unit) : Obeys C (rest u) := by
      refine (obeys_advance _).bind fun next => ?_
      cases next with
      | none => exact obeys_pure _
      | some _ => exact obeys_fail _
    split
    · exact (obeys_fail _).bind rest
    · exact rest ()

theorem obeys_unpackAround (before after : Nat) (v : Value) :
    Obeys C (unpackAround before after v) := by
  refine (obeys_cursor? v).bind fun c => ?_
  split
  · exact obeys_fail _
  · refine (obeys_take before _).bind fun front => ?_
    have rest : Obeys C (do
        let rest ← drain front.2
        if rest.length < after then
          fail (.tooFewValues (before + after) (before + rest.length) true)
        let middle := rest.length - after
        return (front.1, rest.take middle, rest.drop middle)) := by
      refine (obeys_drain _).bind fun rest => ?_
      dsimp only
      split
      · exact (obeys_fail _).bind fun _ => obeys_pure _
      · exact obeys_pure _
    dsimp only
    split
    · exact (obeys_fail _).bind fun _ => rest
    · exact rest

/-! ### Byte strings -/

theorem obeys_checkBytes (v : Value) : Obeys C (checkBytes v) := by
  unfold checkBytes
  split
  · exact obeys_fail _
  · exact obeys_fail _
  · exact obeys_pure _

theorem obeys_bytesFrom (v : Value) : Obeys C (bytesFrom v) := by
  refine obeys_heap.bind fun heap => ?_
  split
  · exact obeys_pure _
  · refine (obeys_checkBytes v).bind fun _ => (obeys_cursor? v).bind fun c => ?_
    split
    · exact obeys_fail _
    · exact (obeys_drain _).bind fun members => obeys_mapM (fun _ => obeys_work _) members

theorem obeys_setBytes (id : Nat) (s : Slice) (v : Value) : Obeys C (setBytes id s v) := by
  refine (obeys_bytesFrom v).bind fun given => obeys_heap.bind fun heap => ?_
  dsimp only
  split
  · exact obeys_work _
  · split
    · exact obeys_work _
    · split
      · exact (obeys_fail _).bind fun _ => obeys_work _
      · exact obeys_work _

/-! ### Members, methods and operators -/

theorem obeys_setMembers (id : Nat) (s : Slice) (member : Value) :
    Obeys C (setMembers id s member) := by
  refine (obeys_cursor? member).bind fun c => ?_
  split
  · exact obeys_fail _
  · refine (obeys_drain _).bind fun given => obeys_heap.bind fun heap => ?_
    dsimp only
    split
    · exact obeys_work _
    · split
      · exact (obeys_fail _).bind fun _ => obeys_work _
      · exact obeys_work _

theorem obeys_setItemSlice (v start stop step member : Value) :
    Obeys C (setItemSlice v start stop step member) := by
  unfold setItemSlice
  split
  · exact (obeys_work _).bind fun _ => obeys_setMembers _ _ _
  · exact (obeys_work _).bind fun _ => obeys_setBytes _ _ _
  · exact obeys_fail _
  · exact obeys_fail _
  · exact obeys_fail _

theorem obeys_bytesHold (whole : List UInt8) (v : Value) : Obeys C (bytesHold whole v) := by
  refine obeys_heap.bind fun heap => ?_
  split
  · exact obeys_pure _
  · split
    · exact obeys_fail _
    · exact obeys_pure _
  · exact obeys_fail _

theorem obeys_contains (v container : Value) : Obeys C (contains v container) := by
  unfold contains
  split
  · split
    · exact obeys_pure _
    · exact obeys_fail _
  · exact (obeys_work _).bind fun _ => obeys_pure _
  · refine obeys_heap.bind fun heap => ?_
    split
    · exact obeys_ofExcept _
    · exact obeys_pure _
  · refine obeys_heap.bind fun heap => ?_
    split
    · exact obeys_ofExcept _
    · exact obeys_pure _
  · split
    · exact obeys_pure _
    · exact (obeys_cursor _).bind fun c => obeys_holds _ v c
  · exact obeys_bytesHold _ v
  · exact obeys_heap.bind fun _ => obeys_bytesHold _ v
  · refine (obeys_cursor? _).bind fun c => ?_
    split
    · exact obeys_heap.bind fun _ => obeys_holds _ v _
    · exact obeys_fail _

theorem obeys_join (receiver v : Value) : Obeys C (join receiver v) := by
  refine (obeys_cursor? v).bind fun c => ?_
  split
  · exact obeys_fail _
  · refine (obeys_drain _).bind fun members => ?_
    split
    · exact (obeys_work _).bind fun _ => obeys_pure _
    · exact (obeys_work _).bind fun _ => obeys_heap.bind fun _ => obeys_work _
    · exact (obeys_work _).bind fun _ => obeys_heap.bind fun _ => obeys_pure _

theorem obeys_callMethod (receiver : Value) (method : Method) (args : List Value) :
    Obeys C (callMethod receiver method args) := by
  unfold callMethod
  split
  · exact (obeys_work _).bind fun _ => obeys_pure _
  · exact (obeys_work _).bind fun _ => obeys_pure _
  · exact obeys_work _
  · exact (obeys_work _).bind fun _ => obeys_work _
  · exact obeys_work _
  · exact (obeys_work _).bind fun _ => obeys_work _
  · exact obeys_work _
  · exact obeys_work _
  · exact obeys_pure _
  · exact obeys_pure _
  · exact obeys_heap.bind fun _ => obeys_work _
  · exact obeys_join _ _
  · exact obeys_work _
  · exact obeys_work _
  · exact obeys_work _
  · exact obeys_fail _

theorem obeys_callBuiltin (b : Builtin) (args : List Value) : Obeys C (callBuiltin b args) := by
  unfold callBuiltin
  split
  · exact obeys_work _
  · exact obeys_fail _
  · exact obeys_work _
  · exact obeys_pure _
  · exact (obeys_work _).bind fun _ => obeys_pure _
  · exact obeys_pure _
  · exact obeys_work _
  · exact obeys_work _
  · exact (obeys_members _).bind fun _ => obeys_work _
  · exact obeys_fail _
  · exact obeys_fail _
  · exact obeys_fail _
  · exact obeys_fail _
  · split
    · exact obeys_callMethod _ _ _
    · exact obeys_fail _
  · exact obeys_fail _
  · exact obeys_fail _
  · exact obeys_fail _

theorem obeys_augment (op : Tag.BinaryOp) (left right : Value) :
    Obeys C (augment op left right) := by
  unfold augment
  split
  · exact (obeys_extend _ right).bind fun _ => obeys_pure _
  · exact (obeys_work _).bind fun _ => obeys_pure _
  · exact obeys_work _
  · exact obeys_work _

end Act

end StreamTemplate
