import StreamTemplate.Render.Evaluate

/-!
# Assigning and deleting

What is assigned is evaluated before the target it is assigned to. The parts of a target are
evaluated once, also where its present value is needed.
-/

namespace StreamTemplate

open Tag Eval

section

variable (e : Engine)

/-- Whether a target takes all members left over. -/
def isStarred : Expr → Bool
  | .starred .. => true
  | _ => false

/-- The members of a value for targets, one of which may take all that are left over. -/
def membersFor (targets : List Expr) (v : Value) : Act (List Value) :=
  match targets.findIdx? isStarred with
  | none => Act.unpack targets.length v
  | some before => do
    let (front, middle, back) ← Act.unpackAround before (targets.length - before - 1) v
    return front ++ [← newList middle.toArray] ++ back

mutual

/-- Assigns a value to a target. -/
def Tag.Expr.assign (v : Value) : Expr → Eval Unit
  | .name id _ => setName id v
  | .attribute owner attr _ => do work (Work.setAttribute (← owner.eval e) attr v)
  | .subscript owner (.slice start stop step _) _ => do
    let owner ← owner.eval e
    let start ← evalOption e start
    let stop ← evalOption e stop
    let step ← evalOption e step
    act (Act.setItemSlice owner start stop step v)
  | .subscript owner index _ => do
    let owner ← owner.eval e
    let index ← index.eval e
    work (Work.setItem owner index v)
  | .list targets _ => do
    assignEach targets (← act (membersFor targets v))
  | .tuple targets _ => do
    assignEach targets (← act (membersFor targets v))
  | .starred target _ => target.assign v
  | _ => return

/-- Assigns values to targets one by one. -/
def assignEach : List Expr → List Value → Eval Unit
  | target :: targets, v :: vs => do
    target.assign v
    assignEach targets vs
  | _, _ => return

end

mutual

/-- Deletes a target. -/
def Tag.Expr.delete : Expr → Eval Unit
  | .name id _ => deleteName id
  | .attribute owner attr _ => do work (Work.deleteAttribute (← owner.eval e) attr)
  | .subscript owner (.slice start stop step _) _ => do
    let owner ← owner.eval e
    let start ← evalOption e start
    let stop ← evalOption e stop
    let step ← evalOption e step
    work (Work.deleteItemSlice owner start stop step)
  | .subscript owner index _ => do
    let owner ← owner.eval e
    let index ← index.eval e
    work (Work.deleteItem owner index)
  | .list targets _ => deleteEach targets
  | .tuple targets _ => deleteEach targets
  | _ => return

/-- Deletes targets one by one. -/
def deleteEach : List Expr → Eval Unit
  | [] => return
  | target :: targets => do
    target.delete
    deleteEach targets

end

/-- Assigns to a target what an operator makes of its present value and another. The parts of the
target are evaluated once. -/
def assignAugmented (op : BinaryOp) (value : Expr) : Expr → Eval Unit
  | .name id _ => do
    let old ← name id
    let right ← value.eval e
    setName id (← act (Act.augment op old right))
  | .attribute owner attr _ => do
    let owner ← owner.eval e
    let old ← work (Work.readAttribute owner attr)
    let right ← value.eval e
    act do Work.setAttribute owner attr (← Act.augment op old right)
  | .subscript owner (.slice start stop step _) _ => do
    let owner ← owner.eval e
    let start ← evalOption e start
    let stop ← evalOption e stop
    let step ← evalOption e step
    let old ← work (Work.itemSlice owner start stop step)
    let right ← value.eval e
    act do Act.setItemSlice owner start stop step (← Act.augment op old right)
  | .subscript owner index _ => do
    let owner ← owner.eval e
    let index ← index.eval e
    let old ← work (Work.item owner index)
    let right ← value.eval e
    act do Work.setItem owner index (← Act.augment op old right)
  | _ => return

end

end StreamTemplate
