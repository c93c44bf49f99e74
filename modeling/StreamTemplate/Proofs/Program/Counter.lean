import StreamTemplate.Proofs.Program.Unfold
import StreamTemplate.Proofs.Render.Last

/-! # Running a program with a counter

A flat program is executed as it stands. A counter points at the next instruction, and jumps move
it: a condition that fails, to the next clause of the same choice or past its end; the end of a
loop, back to its header; `break`, past the end of the innermost loop; `continue`, to its header.
Where the jumps lead is found by scanning the program. -/

namespace StreamTemplate

open Program

universe u

variable {κ : Type}

/-! ### Scanning for the target of a jump -/

/-- The kind of statement that an instruction is; one that only appends counts as simple. -/
def Program.Instruction.kind : Instruction κ → StatementKind
  | literal .. | output .. => .simple
  | statement _ _ _ s => s.kind

/-- The number of instructions before the end of a block or, if wanted, before its next clause.
`depth` tells how many blocks inside of it are open. -/
def seek (clauses : Bool) : Nat → List (Instruction κ) → Nat
  | _, [] => 0
  | depth, i :: rest =>
    match i.kind with
    | .ifDo | .forIn | .asyncFor | .whileDo => seek clauses (depth + 1) rest + 1
    | .elifDo | .elseDo => if clauses && depth == 0 then 0 else seek clauses depth rest + 1
    | .endBlock => if depth = 0 then 0 else seek clauses (depth - 1) rest + 1
    | _ => seek clauses depth rest + 1

/-- The place of the next clause or the end of the block that is open at a place. -/
def nextClause (program : List (Instruction κ)) (pc : Nat) : Nat :=
  pc + seek true 0 (program.drop pc)

/-- The place past the end of the block that is open at a place. -/
def pastEnd (program : List (Instruction κ)) (pc : Nat) : Nat :=
  pc + seek false 0 (program.drop pc) + 1

/-- The number of ends in a stretch that belong to a block opened before it. -/
def Program.Part.closes : Part κ → Nat
  | .nodes _ => 0
  | .clauses _ => 1

/-- A scan passes over a stretch and the blocks in it. -/
theorem Program.Unfolds.seek_append {inLoop : Bool} {part : Part κ} {seg : List (Instruction κ)}
    (h : Unfolds inLoop part seg) (clauses : Bool) (depth : Nat) (rest : List (Instruction κ)) :
    seek clauses (depth + part.closes) (seg ++ rest) = seg.length + seek clauses depth rest := by
  induction h generalizing depth rest with
  | nil => simp only [Part.closes, List.nil_append, List.length_nil, Nat.zero_add, Nat.add_zero]
  | literal _ ih | output _ ih | simple _ ih | breakLoop _ ih | continueLoop _ ih =>
    simp only [Part.closes, Nat.add_zero] at ih ⊢
    simp only [List.cons_append, seek, Instruction.kind, Statement.kind, List.length_cons, ih]
    omega
  | choice _ _ _ hb ha hr =>
    simp only [Part.closes, Nat.add_zero] at hb ha hr ⊢
    simp only [List.cons_append, List.append_assoc, List.length_cons, List.length_append,
      seek, Instruction.kind, Statement.kind, hb, ha, hr]
    omega
  | @forLoop _ _ _ isAsync _ _ _ _ _ _ _ _ _ _ _ _ hb hr =>
    simp only [Part.closes, Nat.add_zero] at hb hr ⊢
    cases isAsync <;>
      simp only [List.cons_append, List.append_assoc, List.length_cons, List.length_append,
        seek, Instruction.kind, Statement.kind, hb, hr, Nat.add_sub_cancel, Nat.succ_ne_zero,
        if_false] <;>
      omega
  | whileLoop _ _ hb hr =>
    simp only [Part.closes, Nat.add_zero] at hb hr ⊢
    simp only [List.cons_append, List.append_assoc, List.length_cons, List.length_append,
      seek, Instruction.kind, Statement.kind, hb, hr, Nat.add_sub_cancel, Nat.succ_ne_zero,
      if_false]
    omega
  | close =>
    simp only [Part.closes, List.cons_append, List.nil_append, List.length_cons, List.length_nil,
      seek, Instruction.kind, Statement.kind, Nat.add_sub_cancel, Nat.succ_ne_zero, if_false]
    omega
  | elif _ _ hb ha | otherwise _ _ hb ha =>
    simp only [Part.closes, Nat.add_zero] at hb ha ⊢
    simp [List.cons_append, List.append_assoc, List.length_cons, List.length_append,
      seek, Instruction.kind, Statement.kind, hb, ha]
    omega

/-- The end of a choice is found from its clauses. -/
theorem Program.Unfolds.seek_end {inLoop : Bool} {part : Part κ} {seg : List (Instruction κ)}
    (h : Unfolds inLoop part seg) {branches : List (Branch κ)} (hp : part = .clauses branches)
    (rest : List (Instruction κ)) : seek false 0 (seg ++ rest) + 1 = seg.length := by
  induction h generalizing branches with
  | close => rfl
  | elif hb _ _ ih | otherwise hb _ _ ih =>
    have := hb.seek_append false 0
    simp only [Part.closes, Nat.add_zero] at this
    simp [seek, Instruction.kind, Statement.kind, this, ← ih rfl]
    omega
  | _ => cases hp

/-- The next clause of a choice is where its other clauses begin. -/
theorem Program.Unfolds.nextClause {inLoop : Bool} {body : List (Node κ)}
    {branches : List (Branch κ)} {program seg arms rest : List (Instruction κ)} {pc : Nat}
    (hb : Unfolds inLoop (.nodes body) seg) (ha : Unfolds inLoop (.clauses branches) arms)
    (hd : program.drop pc = seg ++ (arms ++ rest)) :
    StreamTemplate.nextClause program pc = pc + seg.length := by
  have hs : seek true 0 (arms ++ rest) = 0 := by cases ha <;> rfl
  have hp := hb.seek_append true 0 (arms ++ rest)
  rw [hs] at hp
  rw [StreamTemplate.nextClause, hd]
  exact congrArg (pc + ·) hp

/-- The end of a choice is where its other clauses end. -/
theorem Program.Unfolds.pastEnd {inLoop : Bool} {body : List (Node κ)}
    {branches : List (Branch κ)} {program seg arms rest : List (Instruction κ)} {pc : Nat}
    (hb : Unfolds inLoop (.nodes body) seg) (ha : Unfolds inLoop (.clauses branches) arms)
    (hd : program.drop pc = seg ++ (arms ++ rest)) :
    StreamTemplate.pastEnd program pc = pc + (seg.length + arms.length) := by
  have hs := ha.seek_end rfl rest
  have hp := hb.seek_append false 0 (arms ++ rest)
  simp only [Part.closes, Nat.add_zero] at hp
  rw [StreamTemplate.pastEnd, hd, hp]
  omega

/-- The end of a loop is where its body ends. -/
theorem Program.Unfolds.pastLoop {inLoop : Bool} {body : List (Node κ)} {site : Site}
    {source tag : String} {program seg rest : List (Instruction κ)} {pc : Nat}
    (hb : Unfolds inLoop (.nodes body) seg)
    (hd : program.drop pc = seg ++ .statement site source tag .endBlock :: rest) :
    StreamTemplate.pastEnd program pc = pc + seg.length + 1 :=
  hb.pastEnd .close hd

/-! ### Execution -/

variable {γ : Type} {m : Type → Type u} [Monad m]

/-- The code of a loop's target assigns the item that is current: `give` assigns one that is
named. -/
def Machine.Gives (h : Machine κ γ m) (give : κ → Value → ExceptT Fault m Unit) : Prop :=
  ∀ target v, (do h.setItem v; h.assign target : ExceptT Fault m Unit) = do
    h.setItem v
    give target v

/-- A loop that is gone through: the places of its header and past its end, the cursor of a `for`,
and the number of rounds that it may still begin. -/
structure ActiveLoop (γ : Type) where
  header : Nat
  past : Nat
  cursor : Option γ
  rounds : Nat

/-- Where the execution stands: the counter, whether a choice still looks for a clause, and the
loops gone through, the innermost first. -/
structure Point (γ : Type) where
  pc : Nat := 0
  trying : Bool := false
  loops : List (ActiveLoop γ) := []

/-- The loop whose header the counter points at, if it is gone through, and the loops around it. -/
def Point.active (p : Point γ) : Option (ActiveLoop γ × List (ActiveLoop γ)) :=
  match p.loops with
  | [] => none
  | a :: outer => if a.header = p.pc then some (a, outer) else none

/-- Goes on to another place with the same loops. -/
def Point.goTo (p : Point γ) (pc : Nat) : Point γ := { p with pc, trying := false }

variable (h : Machine κ γ m)

/-- What is done when a loop is left: a `for` leaves no item current. -/
def ActiveLoop.leave (a : ActiveLoop γ) : m Unit :=
  match a.cursor with
  | some _ => h.dropItem
  | none => return

/-- Leaves loops, the innermost first. -/
def unwind : List (ActiveLoop γ) → m Unit
  | [] => return
  | a :: outer => do
    a.leave h
    unwind outer

namespace Point

/-- Leaves a loop and goes on past its end. -/
def exit (a : ActiveLoop γ) (outer : List (ActiveLoop γ)) : ExceptT Fault m (Point γ) := do
  (a.leave h : m Unit)
  return { pc := a.past, loops := outer }

/-- Goes into a clause whose condition holds, and else on to the next one. -/
def choose (program : List (Instruction κ)) (p : Point γ) (test : κ) :
    ExceptT Fault m (Point γ) := do
  if ← holds h test then return p.goTo (p.pc + 1)
  else return { p with pc := nextClause program (p.pc + 1), trying := true }

variable (give : κ → Value → ExceptT Fault m Unit) (rounds : Nat)
  (program : List (Instruction κ))

/-- The header of a `for`: the loop begins, or its next item is assigned. -/
def forHeader (p : Point γ) (site : Site) (tag : String) (target iter : κ) :
    ExceptT Fault m (Point γ) := do
  match p.active with
  | some (⟨header, past, some c, left⟩, outer) =>
    match left with
    | 0 =>
      ExceptT.lift h.stuck
      exit h ⟨header, past, some c, 0⟩ outer
    | left + 1 =>
      match ← h.advance c with
      | none => exit h ⟨header, past, some c, left⟩ outer
      | some (v, c) =>
        h.setItem v
        give target v
        return { pc := p.pc + 1, loops := ⟨header, past, some c, left⟩ :: outer }
  | _ =>
    h.enter site (some tag)
    let c ← onFault (do h.cursor false (← h.evaluate iter)) h.dropItem
    return { p with loops := ⟨p.pc, pastEnd program (p.pc + 1), some c, rounds⟩ :: p.loops }

/-- The header of a `while`: the loop begins, or its condition decides on the next round. -/
def whileHeader (p : Point γ) (site : Site) (tag : String) (test : κ) :
    ExceptT Fault m (Point γ) := do
  match p.active with
  | some (⟨header, past, none, left⟩, outer) =>
    h.enter site (some tag)
    match left with
    | 0 =>
      ExceptT.lift h.stuck
      exit h ⟨header, past, none, 0⟩ outer
    | left + 1 =>
      if ← holds h test then
        return { pc := p.pc + 1, loops := ⟨header, past, none, left⟩ :: outer }
      else exit h ⟨header, past, none, left⟩ outer
  | _ => return { p with loops := ⟨p.pc, pastEnd program (p.pc + 1), none, rounds⟩ :: p.loops }

/-- The end of a block: that of the innermost loop leads back to its header. -/
def blockEnd (p : Point γ) : Point γ :=
  match p.loops with
  | [] => p.goTo (p.pc + 1)
  | a :: _ => p.goTo (if p.trying = false ∧ a.past = p.pc + 1 then a.header else p.pc + 1)

/-- A jump out of the innermost loop or back to its header. -/
def jump (p : Point γ) (isBreak : Bool) : ExceptT Fault m (Point γ) :=
  match p.loops with
  | [] => return p.goTo (p.pc + 1)
  | a :: outer => if isBreak then exit h a outer else return p.goTo a.header

/-- Executes the instruction that the counter points at. -/
def step (p : Point γ) : Instruction κ → ExceptT Fault m (Point γ)
  | .literal site text => do
    h.enter site none
    h.literal text
    return p.goTo (p.pc + 1)
  | .output site escaped _ code tag => do
    h.enter site (some tag)
    h.output escaped (← h.evaluate code)
    return p.goTo (p.pc + 1)
  | .statement site _ tag s =>
    match s with
    | .simple code => do
      h.enter site (some tag)
      h.execute code
      return p.goTo (p.pc + 1)
    | .ifDo test => do
      h.enter site (some tag)
      choose h program p test
    | .elifDo test =>
      if p.trying then choose h program p test
      else return p.goTo (pastEnd program (p.pc + 1))
    | .elseDo => return p.goTo (if p.trying then p.pc + 1 else pastEnd program (p.pc + 1))
    | .forIn _ target iter => forHeader h give rounds program p site tag target iter
    | .whileDo test => whileHeader h rounds program p site tag test
    | .endBlock => return p.blockEnd
    | .breakLoop => do
      h.enter site (some tag)
      jump h p true
    | .continueLoop => do
      h.enter site (some tag)
      jump h p false

/-- Executes instructions until the counter is past the last one. A fault leaves all loops. The
number of instructions executed is bounded. -/
def run : Nat → Point γ → ExceptT Fault m Unit
  | 0, _ => ExceptT.lift h.stuck
  | fuel + 1, p => do
    match program[p.pc]? with
    | none => return
    | some i => run fuel (← onFault (step h give rounds program p i) (unwind h p.loops))

end Point

end StreamTemplate
