import StreamTemplate.Proofs.Program.Counter

/-! # A body and its program do the same

The walk through a block tree and the run of the flat program that it was built from are compared.
Both do the same in the same order, in any monad and whatever the code in the tags does. -/

namespace StreamTemplate

open Program

universe u

variable {κ γ : Type} {m : Type → Type u} [Monad m] [LawfulMonad m]

theorem Machine.Gives.bind {α : Type} {h : Machine κ γ m} {give : κ → Value → ExceptT Fault m Unit}
    (hg : h.Gives give) (target : κ) (v : Value) (x : ExceptT Fault m α) :
    (do h.setItem v; give target v; x : ExceptT Fault m α) =
      (do h.setItem v; h.assign target; x) := by
  rw [← bind_assoc, ← hg, bind_assoc]

/-! ### The run from a point -/

section

variable (h : Machine κ γ m) (give : κ → Value → ExceptT Fault m Unit) (rounds : Nat)
  (program : List (Instruction κ))

/-- `RunsTo h give rounds program p k x`: with `k` instructions to execute or more, the run from
`p`, which ends past the last instruction, is `x`. -/
def RunsTo (p : Point γ) (k : Nat) (x : ExceptT Fault m Flow) : Prop :=
  ∀ fuel, k ≤ fuel → (do p.run h give rounds program fuel; return .next) = x

variable {h give rounds program} {p : Point γ} {k l : Nat}

omit [LawfulMonad m] in
theorem RunsTo.mono {x : ExceptT Fault m Flow} (hx : RunsTo h give rounds program p k x)
    (hl : k ≤ l) : RunsTo h give rounds program p l x :=
  fun fuel hf => hx fuel (Nat.le_trans hl hf)

/-- One instruction is executed: `x` is what it does, and what it gives decides how to go on. -/
theorem RunsTo.step {α : Type} {i : Instruction κ} (x : ExceptT Fault m α) (f : α → Point γ)
    (y : α → ExceptT Fault m Flow) {z : ExceptT Fault m Flow} (hi : program[p.pc]? = some i)
    (hs : p.step h give rounds program i = x >>= fun a => pure (f a))
    (hf : ∀ a, RunsTo h give rounds program (f a) k (y a)) (hl : k + 1 ≤ l)
    (hz : onFault x (unwind h p.loops) >>= y = z) : RunsTo h give rounds program p l z := by
  intro fuel hk
  obtain ⟨fuel, rfl⟩ : ∃ n, fuel = n + 1 := ⟨fuel - 1, by omega⟩
  simp only [Point.run, hi, hs, onFault_bind, onFault_pure, bind_assoc, pure_bind, ← hz]
  exact bind_congr fun a => hf a fuel (by omega)

end

/-- What comes after a stretch: for each way to leave it, how the run goes on. -/
structure Follows (h : Machine κ γ m) (give : κ → Value → ExceptT Fault m Unit) (rounds : Nat)
    (program : List (Instruction κ)) (pc : Nat) (loops : List (ActiveLoop γ)) (k : Nat)
    (x : Flow → ExceptT Fault m Flow) : Prop where
  next : RunsTo h give rounds program { pc, loops } k (x .next)
  breakLoop : ∀ a outer, loops = a :: outer → ∃ y, x .breakLoop = (do (a.leave h : m Unit); y) ∧
    RunsTo h give rounds program { pc := a.past, loops := outer } k y
  continueLoop : ∀ a outer, loops = a :: outer →
    RunsTo h give rounds program { pc := a.header, loops } k (x .continueLoop)

/-- What comes after the body of a loop: `y` once the loop is left, or `z` from its header again. -/
def afterRound (h : Machine κ γ m) (a : ActiveLoop γ) (y z : ExceptT Fault m Flow) :
    Flow → ExceptT Fault m Flow
  | .breakLoop => do
    (a.leave h : m Unit)
    y
  | _ => z

/-- The end of a loop leads back to its header. -/
theorem Follows.afterRound {h : Machine κ γ m} {give : κ → Value → ExceptT Fault m Unit}
    {rounds : Nat} {program : List (Instruction κ)}
    {pc k : Nat} {a : ActiveLoop γ} {outer : List (ActiveLoop γ)} {y z : ExceptT Fault m Flow}
    {last : Site} {source tag : String}
    (hi : program[pc]? = some (.statement last source tag .endBlock)) (ha : a.past = pc + 1)
    (hy : RunsTo h give rounds program { pc := a.past, loops := outer } k y)
    (hz : RunsTo h give rounds program { pc := a.header, loops := a :: outer } k z) :
    Follows h give rounds program pc (a :: outer) (k + 1) (afterRound h a y z) := by
  refine ⟨?_, ?_, ?_⟩
  · refine RunsTo.step (pure ()) (fun _ => { pc := a.header, loops := a :: outer }) (fun _ => z)
      hi ?_ (fun _ => hz) (Nat.le_refl _) ?_
    · simp [Point.step, Point.blockEnd, Point.goTo, ha]
    · simp [StreamTemplate.afterRound]
  · rintro _ _ ⟨⟩
    exact ⟨y, rfl, hy.mono (Nat.le_succ k)⟩
  · rintro _ _ ⟨⟩
    exact hz.mono (Nat.le_succ k)

/-- A stretch is inside of the innermost loop that is gone through. -/
def Inside (loops : List (ActiveLoop γ)) (pc length : Nat) : Prop :=
  ∀ a ∈ loops.head?, a.header < pc ∧ pc + length < a.past

/-- What is done for a part of a body. -/
def Program.Part.run (h : Machine κ γ m) (rounds : Nat) : Program.Part κ → ExceptT Fault m Flow
  | .nodes list => runNodes h false rounds list
  | .clauses list => runBranches h false rounds list

/-- Whether a choice looks for a clause where the stretch of a part begins. -/
def Program.Part.trying : Program.Part κ → Bool
  | .nodes _ => false
  | .clauses _ => true

/-- `Simulates h give rounds program inLoop part seg n`: wherever in the program the stretch `seg`
stands, the run does there what is done for `part`, with `n` instructions, and goes on with what
follows. -/
def Simulates (h : Machine κ γ m)
    (give : κ → Value → ExceptT Fault m Unit) (rounds : Nat) (program : List (Instruction κ))
    (inLoop : Bool)
    (part : Program.Part κ) (seg : List (Instruction κ)) (n : Nat) : Prop :=
  ∀ {pc loops rest k x}, program.drop pc = seg ++ rest → Inside loops pc seg.length →
    (inLoop = true → loops ≠ []) → Follows h give rounds program (pc + seg.length) loops k x →
    RunsTo h give rounds program { pc, trying := part.trying, loops } (k + n)
      (onFault (part.run h rounds) (unwind h loops) >>= x)

theorem getElem?_of_drop {l : List (Instruction κ)} {pc : Nat} {i : Instruction κ}
    {rest : List (Instruction κ)} (h : l.drop pc = i :: rest) : l[pc]? = some i := by
  have := congrArg (·[0]?) h
  simpa using this

theorem drop_of_drop {l s t : List (Instruction κ)} {pc : Nat} (h : l.drop pc = s ++ t) :
    l.drop (pc + s.length) = t := by
  rw [← List.drop_drop, h, List.drop_left]

theorem drop_tail {l rest : List (Instruction κ)} {pc : Nat} {i : Instruction κ}
    (h : l.drop pc = i :: rest) : l.drop (pc + 1) = rest :=
  drop_of_drop (s := [i]) h

theorem Inside.mono {loops : List (ActiveLoop γ)} {pc pc' length length' : Nat}
    (h : Inside loops pc length) (hp : pc ≤ pc') (hl : pc' + length' ≤ pc + length) :
    Inside loops pc' length' := by
  intro a ha
  have := h a ha
  omega

/-! ### Loops -/

section

variable {h : Machine κ γ m} {give : κ → Value → ExceptT Fault m Unit} {rounds : Nat}
  {program : List (Instruction κ)} {site last : Site}
  {source tag source' tag' : String} {isAsync : Bool} {target iter test : κ}
  {body : List (Node κ)} {seg rest : List (Instruction κ)} {loops : List (ActiveLoop γ)}
  {n pc k : Nat} {y : ExceptT Fault m Flow}

/-- A round of a `for` begins with its next item, if there is one. -/
def takeItem (h : Machine κ γ m) (target : κ) (c : γ) : ExceptT Fault m (Option γ) := do
  match ← h.advance c with
  | none =>
    (h.dropItem : m Unit)
    return none
  | some (v, c) =>
    h.setItem v
    h.assign target
    return some c

/-- The rounds of a `for`, from its header. -/
theorem Simulates.forRounds (hg : h.Gives give)
    (hb : Simulates h give rounds program true (.nodes body) seg n)
    (hd : program.drop pc = .statement site source tag (.forIn isAsync target iter) ::
      (seg ++ .statement last source' tag' .endBlock :: rest))
    (hy : RunsTo h give rounds program { pc := pc + seg.length + 2, loops } k y) (left : Nat)
    (c : γ) :
    RunsTo h give rounds program
      { pc, loops := ⟨pc, pc + seg.length + 2, some c, left⟩ :: loops } (k + left * (n + 2) + 1)
      (onFault (ensuring (forEach h target (runNodes h false rounds body) left c) h.dropItem)
        (unwind h loops) >>= fun _ => y) := by
  induction left generalizing c with
  | zero =>
    refine RunsTo.step (do ExceptT.lift h.stuck; (h.dropItem : m Unit))
      (fun _ => { pc := pc + seg.length + 2, loops }) (fun _ => y) (getElem?_of_drop hd) ?_
      (fun _ => hy) (by omega) ?_
    · simp [Point.step, Point.forHeader, Point.active, Point.exit, ActiveLoop.leave]
    · simp [forEach, onFault_bind]
  | succ left ih =>
    rw [Nat.succ_mul]
    let a (c : γ) : ActiveLoop γ := ⟨pc, pc + seg.length + 2, some c, left⟩
    let next (c : γ) : ExceptT Fault m Flow := do
      onFault (ensuring (forEach h target (runNodes h false rounds body) left c) h.dropItem)
        (unwind h loops)
      y
    have hn (c : γ) : Follows h give rounds program (pc + 1 + seg.length) (a c :: loops)
        (k + left * (n + 2) + 2) (afterRound h (a c) y (next c)) :=
      .afterRound (getElem?_of_drop (drop_of_drop (drop_tail hd))) 
        (by simp only [a]; omega) (hy.mono (by omega)) (ih c)
    refine RunsTo.step (k := k + left * (n + 2) + 2 + n) (takeItem h target c)
      (fun r => r.elim { pc := pc + seg.length + 2, loops } fun c =>
        { pc := pc + 1, loops := a c :: loops })
      (fun r => r.elim y fun c => do
        afterRound h (a c) y (next c)
          (← onFault (runNodes h false rounds body) (unwind h (a c :: loops))))
      (getElem?_of_drop hd) ?_ ?_ (by omega) ?_
    · simp only [Point.step, Point.forHeader, Point.active, Point.exit, ActiveLoop.leave,
        if_true, takeItem, bind_assoc]
      refine bind_congr fun r => ?_
      cases r with
      | none => simp
      | some r => simp only [hg.bind, bind_assoc, pure_bind, a, Option.elim_some]
    · rintro (_ | c)
      · exact hy.mono (by omega)
      · refine hb (drop_tail hd) ?_ (fun _ => List.cons_ne_nil _ _) (hn c)
        simp only [Inside, List.head?_cons, Option.mem_some, forall_eq', a]
        omega
    · simp only [forEach, takeItem, ensuring_bind, onFault_bind, onFault_onFault, bind_assoc,
        unwind, ActiveLoop.leave]
      refine bind_congr fun r => ?_
      cases r with
      | none =>
        simp only [onFault_bind, onFault_liftM, onFault_pure, ensuring_pure, bind_assoc, pure_bind,
          Option.elim_none]
      | some r =>
        simp only [onFault_bind, ensuring_bind, onFault_onFault, onFault_liftM, bind_assoc,
          onFault_pure, pure_bind, a, Option.elim_some]
        refine bind_congr fun _ => bind_congr fun _ => bind_congr fun flow => ?_
        cases flow <;> simp [afterRound, ActiveLoop.leave, next]

/-- The rounds of a `while`, from its header. -/
theorem Simulates.whileRounds (hb : Simulates h give rounds program true (.nodes body) seg n)
    (hd : program.drop pc = .statement site source tag (.whileDo test) ::
      (seg ++ .statement last source' tag' .endBlock :: rest))
    (hy : RunsTo h give rounds program { pc := pc + seg.length + 2, loops } k y) (left : Nat) :
    RunsTo h give rounds program
      { pc, loops := ⟨pc, pc + seg.length + 2, none, left⟩ :: loops } (k + left * (n + 2) + 1)
      (do
        (h.enter site (some tag) : m Unit)
        onFault (whileTrue h (holds h test) (runNodes h false rounds body) (h.enter site (some tag))
          left) (unwind h loops)
        y) := by
  induction left with
  | zero =>
    refine RunsTo.step (do h.enter site (some tag); ExceptT.lift h.stuck : ExceptT Fault m Unit)
      (fun _ => { pc := pc + seg.length + 2, loops }) (fun _ => y) (getElem?_of_drop hd) ?_
      (fun _ => hy) (by omega) ?_
    · simp [Point.step, Point.whileHeader, Point.active, Point.exit, ActiveLoop.leave]
    · simp [whileTrue, onFault_bind]
  | succ left ih =>
    rw [Nat.succ_mul]
    let a : ActiveLoop γ := ⟨pc, pc + seg.length + 2, none, left⟩
    let next : ExceptT Fault m Flow := do
      (h.enter site (some tag) : m Unit)
      onFault (whileTrue h (holds h test) (runNodes h false rounds body) (h.enter site (some tag))
        left) (unwind h loops)
      y
    have hn : Follows h give rounds program (pc + 1 + seg.length) (a :: loops)
        (k + left * (n + 2) + 2) (afterRound h a y next) :=
      .afterRound (getElem?_of_drop (drop_of_drop (drop_tail hd)))
        (by simp only [a]; omega) (hy.mono (by omega)) ih
    refine RunsTo.step (k := k + left * (n + 2) + 2 + n)
      (do h.enter site (some tag); holds h test : ExceptT Fault m Bool)
      (fun b => if b then { pc := pc + 1, loops := a :: loops }
        else { pc := pc + seg.length + 2, loops })
      (fun b => if b then do
          afterRound h a y next (← onFault (runNodes h false rounds body) (unwind h (a :: loops)))
        else y)
      (getElem?_of_drop hd) ?_ ?_ (by omega) ?_
    · simp only [Point.step, Point.whileHeader, Point.active, Point.exit, ActiveLoop.leave,
        if_true, bind_assoc]
      refine bind_congr fun _ => bind_congr fun b => ?_
      cases b <;> simp [a]
    · rintro (_ | _)
      · exact hy.mono (by omega)
      · refine hb (drop_tail hd) ?_ (fun _ => List.cons_ne_nil _ _) hn
        simp only [Inside, List.head?_cons, Option.mem_some, forall_eq', a]
        omega
    · simp only [whileTrue, onFault_bind, onFault_liftM, bind_assoc, unwind, ActiveLoop.leave,
        pure_bind, a]
      refine bind_congr fun _ => bind_congr fun b => ?_
      cases b with
      | false => simp
      | true =>
        simp only [if_true, onFault_bind, bind_assoc]
        refine bind_congr fun flow => ?_
        cases flow <;> simp [afterRound, ActiveLoop.leave, next, onFault_bind]

end

/-! ### Choices -/

section

variable {h : Machine κ γ m} {give : κ → Value → ExceptT Fault m Unit} {rounds : Nat}
  {program : List (Instruction κ)} {inLoop : Bool}
  {branches : List (Branch κ)} {arms rest : List (Instruction κ)} {loops : List (ActiveLoop γ)}
  {pc k : Nat}

/-- Past its clause, a choice is left: its other clauses are passed over. -/
theorem Program.Unfolds.passed (hu : Unfolds inLoop (.clauses branches) arms)
    (hd : program.drop pc = arms ++ rest) (hl : Inside loops pc arms.length)
    {y : ExceptT Fault m Flow}
    (hy : RunsTo h give rounds program { pc := pc + arms.length, loops } k y) :
    RunsTo h give rounds program { pc, loops } (k + 1) y := by
  cases hu with
  | close =>
    refine RunsTo.step (pure ()) (fun _ => { pc := pc + 1, loops }) (fun _ => y)
      (getElem?_of_drop hd) ?_ (fun _ => hy) (Nat.le_refl _) (by simp)
    cases loops with
    | nil => simp [Point.step, Point.blockEnd, Point.goTo]
    | cons a outer =>
      have := hl a rfl
      have hp : a.past ≠ pc + 1 := by
        rw [List.length_singleton] at this
        omega
      simp [Point.step, Point.blockEnd, Point.goTo, hp]
  | elif hb ha | otherwise hb ha =>
    rw [List.cons_append, List.append_assoc] at hd
    rw [List.length_cons, List.length_append, Nat.add_comm _ 1, ← Nat.add_assoc] at hy
    refine RunsTo.step (pure ()) (fun _ => { pc := _, loops }) (fun _ => y)
      (getElem?_of_drop hd) ?_ (fun _ => hy) (Nat.le_refl _) (by simp)
    simp [Point.step, Point.goTo, hb.pastEnd ha (drop_tail hd)]

/-- Past its clause, a choice goes on as past its end. -/
theorem Follows.passed {x : Flow → ExceptT Fault m Flow}
    (hu : Unfolds inLoop (.clauses branches) arms) (hd : program.drop pc = arms ++ rest)
    (hl : Inside loops pc arms.length)
    (hx : Follows h give rounds program (pc + arms.length) loops k x) :
    Follows h give rounds program pc loops (k + 1) x := by
  refine ⟨hu.passed hd hl hx.next, ?_, ?_⟩
  · intro a outer ho
    obtain ⟨y, hb, hy⟩ := hx.breakLoop a outer ho
    exact ⟨y, hb, hy.mono (Nat.le_succ k)⟩
  · intro a outer ho
    exact (hx.continueLoop a outer ho).mono (Nat.le_succ k)

/-- From where its condition is known, a choice goes on with the clause or with the next one. -/
theorem Simulates.chosen {body : List (Node κ)} {seg : List (Instruction κ)} {n l : Nat}
    {x : Flow → ExceptT Fault m Flow} (hb : Unfolds inLoop (.nodes body) seg)
    (ha : Unfolds inLoop (.clauses branches) arms)
    (sb : Simulates h give rounds program inLoop (.nodes body) seg n)
    (sa : Simulates h give rounds program inLoop (.clauses branches) arms l)
    (hd : program.drop (pc + 1) = seg ++ (arms ++ rest))
    (hl : Inside loops (pc + 1) (seg.length + arms.length)) (hn : inLoop = true → loops ≠ [])
    (hx : Follows h give rounds program (pc + 1 + (seg.length + arms.length)) loops k x)
    (b : Bool) :
    RunsTo h give rounds program
      (if b then { pc := pc + 1, loops }
        else { pc := nextClause program (pc + 1), trying := true, loops }) (k + 1 + n + l)
      (onFault (if b then runNodes h false rounds body else runBranches h false rounds branches)
        (unwind h loops) >>= x) := by
  have hd' := drop_of_drop hd
  rw [← Nat.add_assoc] at hx
  cases b with
  | true =>
    have hx' := hx.passed ha hd' (hl.mono (by omega) (by omega))
    exact (sb hd (hl.mono (by omega) (by omega)) hn hx').mono (by omega)
  | false =>
    rw [hb.nextClause ha hd]
    exact (sa hd' (hl.mono (by omega) (by omega)) hn hx).mono (by omega)

end

/-! ### All parts -/

section

variable {h : Machine κ γ m} {give : κ → Value → ExceptT Fault m Unit} {rounds : Nat}
  {program : List (Instruction κ)} {inLoop : Bool}

/-- An instruction that stands alone is executed like its node. -/
theorem Simulates.plain {node : Node κ} {nodes : List (Node κ)} {i : Instruction κ}
    {seg : List (Instruction κ)} {n : Nat} (x : ExceptT Fault m Unit)
    (hs : ∀ p : Point γ, p.step h give rounds program i = do
      x
      return p.goTo (p.pc + 1))
    (hr : runNodes h false rounds (node :: nodes) = do
      x
      runNodes h false rounds nodes)
    (sn : Simulates h give rounds program inLoop (.nodes nodes) seg n) :
    Simulates h give rounds program inLoop (.nodes (node :: nodes)) (i :: seg) (n + 1) := by
  intro pc loops rest k y hd hl hn hy
  rw [List.length_cons] at hl hy
  refine RunsTo.step (k := k + n) x (fun _ => { pc := pc + 1, loops })
    (fun _ => onFault (runNodes h false rounds nodes) (unwind h loops) >>= y)
    (getElem?_of_drop hd) (hs _) (fun _ => ?_) (by omega) ?_
  · refine sn (drop_tail hd) (hl.mono (by omega) (by omega)) hn ?_
    rwa [Nat.add_right_comm]
  · simp only [Part.run, hr, onFault_bind, bind_assoc]

/-- What comes after a block: the nodes behind it and what follows on them. -/
def afterBlock (h : Machine κ γ m) (rounds : Nat) (nodes : List (Node κ))
    (loops : List (ActiveLoop γ)) (x : Flow → ExceptT Fault m Flow) : Flow → ExceptT Fault m Flow
  | .next => do x (← onFault (runNodes h false rounds nodes) (unwind h loops))
  | flow => x flow

omit [LawfulMonad m] in
theorem Follows.afterBlock {nodes : List (Node κ)} {seg rest : List (Instruction κ)}
    {loops : List (ActiveLoop γ)} {n pc k : Nat} {x : Flow → ExceptT Fault m Flow}
    (sn : Simulates h give rounds program inLoop (.nodes nodes) seg n)
    (hd : program.drop pc = seg ++ rest) (hl : Inside loops pc seg.length)
    (hn : inLoop = true → loops ≠ [])
    (hx : Follows h give rounds program (pc + seg.length) loops k x) :
    Follows h give rounds program pc loops (k + n) (afterBlock h rounds nodes loops x) := by
  refine ⟨sn hd hl hn hx, ?_, ?_⟩
  · intro a outer ho
    obtain ⟨y, hb, hy⟩ := hx.breakLoop a outer ho
    exact ⟨y, hb, hy.mono (Nat.le_add_right k n)⟩
  · intro a outer ho
    exact (hx.continueLoop a outer ho).mono (Nat.le_add_right k n)

/-- A loop that the counter is about to enter is not gone through yet. -/
theorem Inside.active {loops : List (ActiveLoop γ)} {pc length : Nat} {trying : Bool}
    (hl : Inside loops pc length) : Point.active { pc, trying, loops } = none := by
  cases loops with
  | nil => rfl
  | cons a outer =>
    have := hl a rfl
    simp only [Point.active, ite_eq_right_iff]
    omega

section

variable {site last : Site} {source tag source' tag' : String} {isAsync : Bool}
  {target iter test : κ} {body nodes : List (Node κ)} {branches : List (Branch κ)}
  {seg arms tail : List (Instruction κ)} {n l o : Nat}

omit [LawfulMonad m] in
/-- What comes past the end of a loop. -/
theorem Follows.pastLoop {i e : Instruction κ} {rest : List (Instruction κ)} {pc k : Nat}
    {loops : List (ActiveLoop γ)} {x : Flow → ExceptT Fault m Flow}
    (sn : Simulates h give rounds program inLoop (.nodes nodes) tail l)
    (hd : program.drop pc = i :: (seg ++ e :: (tail ++ rest)))
    (hl : Inside loops pc (i :: (seg ++ e :: tail)).length) (hn : inLoop = true → loops ≠ [])
    (hx : Follows h give rounds program (pc + (i :: (seg ++ e :: tail)).length) loops k x) :
    RunsTo h give rounds program { pc := pc + seg.length + 2, loops } (k + l)
      (onFault (runNodes h false rounds nodes) (unwind h loops) >>= x) := by
  have hp : pc + (i :: (seg ++ e :: tail)).length = pc + seg.length + 2 + tail.length := by
    simp only [List.length_cons, List.length_append]
    omega
  have ht : program.drop (pc + seg.length + 2) = tail ++ rest := by
    have := drop_tail (drop_of_drop (drop_tail hd))
    rwa [Nat.add_right_comm pc 1] at this
  rw [hp] at hx
  exact sn ht (hl.mono (by omega) (by omega)) hn hx

/-- A `for` is run like its node. -/
theorem Simulates.forLoop (hg : h.Gives give) (hb : Unfolds true (.nodes body) seg)
    (sb : Simulates h give rounds program true (.nodes body) seg n)
    (sn : Simulates h give rounds program inLoop (.nodes nodes) tail l) :
    Simulates h give rounds program inLoop
      (.nodes (.forLoop site isAsync target iter body tag :: nodes))
      (.statement site source tag (.forIn isAsync target iter) ::
        (seg ++ .statement last source' tag' .endBlock :: tail))
      (l + rounds * (n + 2) + 2) := by
  intro pc loops rest k x hd hl hn hx
  simp only [List.cons_append, List.append_assoc] at hd
  have hr := sb.forRounds hg hd (hx.pastLoop sn hd hl hn) rounds
  refine RunsTo.step
    (do
      h.enter site (some tag)
      onFault (do h.cursor false (← h.evaluate iter)) h.dropItem : ExceptT Fault m γ)
    (fun c => { pc, loops := ⟨pc, pc + seg.length + 2, some c, rounds⟩ :: loops }) _
    (getElem?_of_drop hd) ?_ hr (by omega) ?_
  · have hp := hb.pastLoop (drop_tail hd)
    rw [Nat.add_right_comm pc 1] at hp
    simp [Point.step, Point.forHeader, hl.active, hp, Part.trying]
  · simp [Part.run, runNodes, runNode, Node.site, Node.tag?, overItems, onFault_bind,
      ensuring_bind, onFault_onFault]

/-- A `while` is run like its node. -/
theorem Simulates.whileLoop (hb : Unfolds true (.nodes body) seg)
    (sb : Simulates h give rounds program true (.nodes body) seg n)
    (sn : Simulates h give rounds program inLoop (.nodes nodes) tail l) :
    Simulates h give rounds program inLoop (.nodes (.whileLoop site test body tag :: nodes))
      (.statement site source tag (.whileDo test) ::
        (seg ++ .statement last source' tag' .endBlock :: tail))
      (l + rounds * (n + 2) + 2) := by
  intro pc loops rest k x hd hl hn hx
  simp only [List.cons_append, List.append_assoc] at hd
  have hr := sb.whileRounds hd (hx.pastLoop sn hd hl hn) rounds
  refine RunsTo.step (pure ())
    (fun _ => { pc, loops := ⟨pc, pc + seg.length + 2, none, rounds⟩ :: loops }) (fun _ => _)
    (getElem?_of_drop hd) ?_ (fun _ => hr) (by omega) ?_
  · have hp := hb.pastLoop (drop_tail hd)
    rw [Nat.add_right_comm pc 1] at hp
    simp [Point.step, Point.whileHeader, hl.active, hp, Part.trying]
  · simp [Part.run, runNodes, runNode, Node.site, Node.tag?, onFault_bind]

/-- `break` is run like its node. -/
theorem Simulates.breakLoop : Simulates h give rounds program true
    (.nodes (.control site true tag :: nodes))
    (.statement site source tag .breakLoop :: seg) 1 := by
  intro pc loops rest k x hd hl hn hx
  cases loops with
  | nil => exact absurd rfl (hn rfl)
  | cons a outer =>
    obtain ⟨y, hb, hy⟩ := hx.breakLoop a outer rfl
    refine RunsTo.step (do h.enter site (some tag); (a.leave h : m Unit) : ExceptT Fault m Unit)
      (fun _ => { pc := a.past, loops := outer }) (fun _ => y) (getElem?_of_drop hd) ?_
      (fun _ => hy) (by omega) ?_
    · simp [Point.step, Point.jump, Point.exit]
    · simp [Part.run, runNodes, runNode, Node.site, Node.tag?, onFault_bind, hb]

/-- `continue` is run like its node. -/
theorem Simulates.continueLoop : Simulates h give rounds program true
    (.nodes (.control site false tag :: nodes))
    (.statement site source tag .continueLoop :: seg) 1 := by
  intro pc loops rest k x hd hl hn hx
  cases loops with
  | nil => exact absurd rfl (hn rfl)
  | cons a outer =>
    refine RunsTo.step (h.enter site (some tag) : ExceptT Fault m Unit)
      (fun _ => { pc := a.header, loops := a :: outer }) (fun _ => x .continueLoop)
      (getElem?_of_drop hd) ?_ (fun _ => hx.continueLoop a outer rfl) (by omega) ?_
    · simp [Point.step, Point.jump, Point.goTo]
    · simp [Part.run, runNodes, runNode, Node.site, Node.tag?]

/-- A choice without another clause is run to its end. -/
theorem Simulates.close : Simulates h give rounds program inLoop (.clauses [])
    [.statement site source tag .endBlock] 1 := by
  intro pc loops rest k x hd hl hn hx
  refine RunsTo.step (pure ()) (fun _ => { pc := pc + 1, loops }) (fun _ => x .next)
    (getElem?_of_drop hd) ?_ (fun _ => hx.next) (by omega) ?_
  · cases loops <;> simp [Point.step, Point.blockEnd, Point.goTo, Part.trying]
  · simp [Part.run, runBranches]

/-- A clause with a condition is run like its node. -/
theorem Simulates.elif (hb : Unfolds inLoop (.nodes body) seg)
    (ha : Unfolds inLoop (.clauses branches) arms)
    (sb : Simulates h give rounds program inLoop (.nodes body) seg n)
    (sa : Simulates h give rounds program inLoop (.clauses branches) arms l) :
    Simulates h give rounds program inLoop (.clauses (.mk (some test) body tag :: branches))
      (.statement site source tag (.elifDo test) :: (seg ++ arms)) (n + l + 2) := by
  intro pc loops rest k x hd hl hn hx
  rw [List.cons_append, List.append_assoc] at hd
  simp only [List.length_cons, List.length_append] at hl hx
  have hx' : Follows h give rounds program (pc + 1 + (seg.length + arms.length)) loops k x := by
    rwa [Nat.add_assoc, Nat.add_comm 1]
  refine RunsTo.step (holds h test) _ _ (getElem?_of_drop hd) ?_
    (Simulates.chosen hb ha sb sa (drop_tail hd) (hl.mono (by omega) (by omega)) hn hx')
    (by omega) ?_
  · simp only [Point.step, Point.choose, Part.trying, if_true]
    refine bind_congr fun b => ?_
    cases b <;> simp [Point.goTo]
  · simp only [Part.run, runBranches, onFault_bind, bind_assoc]

/-- A clause without a condition is run like its node. -/
theorem Simulates.otherwise (ha : Unfolds inLoop (.clauses []) arms)
    (sb : Simulates h give rounds program inLoop (.nodes body) seg n) :
    Simulates h give rounds program inLoop (.clauses [.mk none body tag])
      (.statement site source tag .elseDo :: (seg ++ arms)) (n + 2) := by
  intro pc loops rest k x hd hl hn hx
  rw [List.cons_append, List.append_assoc] at hd
  simp only [List.length_cons, List.length_append] at hl hx
  have hd' := drop_tail hd
  have hx' : Follows h give rounds program (pc + 1 + seg.length + arms.length) loops k x := by
    rwa [Nat.add_assoc, Nat.add_assoc, Nat.add_comm 1]
  have hp := hx'.passed ha (drop_of_drop hd') (hl.mono (by omega) (by omega))
  refine RunsTo.step (pure ()) (fun _ => { pc := pc + 1, loops })
    (fun _ => onFault (runNodes h false rounds body) (unwind h loops) >>= x)
    (getElem?_of_drop hd) ?_ (fun _ => sb hd' (hl.mono (by omega) (by omega)) hn hp) (by omega) ?_
  · simp [Point.step, Point.goTo, Part.trying]
  · simp [Part.run, runBranches]

/-- A choice is run like its node. -/
theorem Simulates.choice (hb : Unfolds inLoop (.nodes body) seg)
    (ha : Unfolds inLoop (.clauses branches) arms)
    (sb : Simulates h give rounds program inLoop (.nodes body) seg n)
    (sa : Simulates h give rounds program inLoop (.clauses branches) arms l)
    (sn : Simulates h give rounds program inLoop (.nodes nodes) tail o) :
    Simulates h give rounds program inLoop
      (.nodes (.choice site (.mk (some test) body tag :: branches) tag :: nodes))
      (.statement site source tag (.ifDo test) :: (seg ++ (arms ++ tail))) (o + n + l + 2) := by
  intro pc loops rest k x hd hl hn hx
  simp only [List.cons_append, List.append_assoc] at hd
  simp only [List.length_cons, List.length_append] at hl hx
  have hd' := drop_tail hd
  have hx' : Follows h give rounds program (pc + 1 + seg.length + arms.length + tail.length)
      loops k x := by
    rwa [Nat.add_assoc, Nat.add_assoc, Nat.add_assoc, Nat.add_comm 1]
  have hb' := hx'.afterBlock sn (drop_of_drop (drop_of_drop hd'))
    (hl.mono (by omega) (by omega)) hn
  rw [Nat.add_assoc (pc + 1)] at hb'
  refine RunsTo.step (do h.enter site (some tag); holds h test : ExceptT Fault m Bool) _ _
    (getElem?_of_drop hd) ?_
    (Simulates.chosen hb ha sb sa hd' (hl.mono (by omega) (by omega)) hn hb') (by omega) ?_
  · simp only [Point.step, Point.choose, bind_assoc]
    refine bind_congr fun _ => bind_congr fun b => ?_
    cases b <;> simp [Point.goTo]
  · simp only [Part.run, runNodes, runNode, runBranches, Node.site, Node.tag?, onFault_bind,
      onFault_liftM, bind_assoc]
    refine bind_congr fun _ => bind_congr fun b => bind_congr fun flow => ?_
    cases flow <;> simp [afterBlock]

end

/-- The run does what is done for a part. -/
theorem Program.Unfolds.simulates (hg : h.Gives give) {part : Program.Part κ}
    {seg : List (Instruction κ)} (hu : Unfolds inLoop part seg) :
    ∃ n, Simulates h give rounds program inLoop part seg n := by
  induction hu with
  | nil =>
    refine ⟨0, ?_⟩
    intro pc loops rest k x hd hl hn hx
    simpa [Part.run, runNodes, Part.trying] using hx.next
  | @literal _ site text _ _ _ ih =>
    obtain ⟨n, sn⟩ := ih
    refine ⟨n + 1, sn.plain
      (do h.enter site none; h.literal text : ExceptT Fault m Unit) ?_ ?_⟩
    · simp [Point.step]
    · simp [runNodes, runNode, Node.site, Node.tag?]
  | @output _ site escaped _ code tag _ _ _ ih =>
    obtain ⟨n, sn⟩ := ih
    refine ⟨n + 1, sn.plain
      (do h.enter site (some tag); h.output escaped (← h.evaluate code) :
        ExceptT Fault m Unit) ?_ ?_⟩
    · simp [Point.step]
    · simp [runNodes, runNode, Node.site, Node.tag?]
  | @simple _ site _ code tag _ _ _ ih =>
    obtain ⟨n, sn⟩ := ih
    refine ⟨n + 1, sn.plain
      (do h.enter site (some tag); h.execute code : ExceptT Fault m Unit) ?_ ?_⟩
    · simp [Point.step]
    · simp [runNodes, runNode, Node.site, Node.tag?]
  | breakLoop => exact ⟨1, Simulates.breakLoop⟩
  | continueLoop => exact ⟨1, Simulates.continueLoop⟩
  | choice hb ha _ ihb iha ihn =>
    obtain ⟨n, sb⟩ := ihb
    obtain ⟨l, sa⟩ := iha
    obtain ⟨o, sn⟩ := ihn
    exact ⟨_, Simulates.choice hb ha sb sa sn⟩
  | forLoop hb _ ihb ihn =>
    obtain ⟨n, sb⟩ := ihb
    obtain ⟨l, sn⟩ := ihn
    exact ⟨_, sb.forLoop hg hb sn⟩
  | whileLoop hb _ ihb ihn =>
    obtain ⟨n, sb⟩ := ihb
    obtain ⟨l, sn⟩ := ihn
    exact ⟨_, sb.whileLoop hb sn⟩
  | close => exact ⟨1, Simulates.close⟩
  | elif hb ha ihb iha =>
    obtain ⟨n, sb⟩ := ihb
    obtain ⟨l, sa⟩ := iha
    exact ⟨_, Simulates.elif hb ha sb sa⟩
  | otherwise _ ha ihb _ =>
    obtain ⟨n, sb⟩ := ihb
    exact ⟨_, sb.otherwise ha⟩

end

end StreamTemplate
