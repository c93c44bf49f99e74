import StreamTemplate.Render.Assign
import StreamTemplate.Render.Interpreter

/-!
# Executing statements

Statements within one tag, with loops and conditions of their own, and the pieces of code that a
template is made of.
-/

namespace StreamTemplate

open Tag Eval

section

variable (e : Engine)

/-- What a loop goes through. -/
inductive Iteration where
  | plain (c : Cursor)
  | async (iterator : Value)

/-- Begins to go through a value. -/
def iteration (isAsync : Bool) (v : Value) : Run Iteration :=
  if isAsync then return .async (← asyncIterator v) else return .plain (← Run.act (Act.cursor v))

/-- The next item, and how to go on behind it. -/
def Iteration.advance : Iteration → Run (Option (Value × Iteration))
  | .plain c => do return (← Run.act (Act.advance c)).map fun (v, c) => (v, .plain c)
  | .async iterator => do return (← nextOrEnd e iterator).map fun v => (v, .async iterator)

/-- Runs a loop within a tag for each item; it tells whether the loop ran to its end. -/
def loopItems (target : Expr) (body : Eval Flow) : Nat → Iteration → Eval Bool
  | 0, _ => run Run.stuck
  | rounds + 1, iteration => do
    match ← run (iteration.advance e) with
    | none => return true
    | some (v, iteration) =>
      target.assign e v
      match ← body with
      | .breakLoop => return false
      | _ => loopItems target body rounds iteration

/-- Runs a loop within a tag as long as a condition holds; it tells whether the loop ran to its
end. -/
def loopWhile (test : Eval Bool) (body : Eval Flow) : Nat → Eval Bool
  | 0 => run Run.stuck
  | rounds + 1 => do
    if ← test then
      match ← body with
      | .breakLoop => return false
      | _ => loopWhile test body rounds
    else return true

mutual

/-- Executes a statement. -/
def Tag.Stmt.exec : Stmt → Eval Flow
  | .expr v => do
    discard (v.eval e)
    return .next
  | .assign targets value => do
    let v ← value.eval e
    targets.forM (·.assign e v)
    return .next
  | .augmented target op value => do
    assignAugmented e op value target
    return .next
  | .pass => return .next
  | .delete targets => do
    deleteEach e targets
    return .next
  | .break _ => return .breakLoop
  | .continue _ => return .continueLoop
  | .return .. | .foreign .. => return .next
  | .ifElse test body orElse => do
    if ← truth (← test.eval e) then execAll body else execAll orElse
  | .forIn isAsync target iter body orElse _ => do
    let v ← iter.eval e
    let start ← run (iteration isAsync v)
    if ← loopItems e target (execAll body) patience start then execAll orElse else return .next
  | .whileDo test body orElse => do
    let holds : Eval Bool := do truth (← test.eval e)
    if ← loopWhile holds (execAll body) patience then execAll orElse else return .next
  | .withDo isAsync items body _ => do
    match items with
    | (manager, _) :: _ =>
      let v ← manager.eval e
      fail (.noContextManager v.typeName isAsync)
    | [] => execAll body

/-- Executes statements in order, as far as they go on to the next one. -/
def execAll : List Stmt → Eval Flow
  | [] => return .next
  | s :: rest => do
    match ← s.exec with
    | .next => execAll rest
    | flow => return flow

end

/-- Evaluates a piece of code. -/
def Tag.Code.eval (code : Tag.Code) : Eval Value := do
  beginCode
  match code with
  | .expression v => v.eval e
  | _ => return .none

/-- Executes a piece of code. -/
def Tag.Code.exec (code : Tag.Code) : Eval Unit := do
  beginCode
  match code with
  | .expression v => discard (v.eval e)
  | .statements body => discard (execAll e body)
  | .target place => do place.assign e (← name loopItem)

end

end StreamTemplate
