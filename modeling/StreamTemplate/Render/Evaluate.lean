import StreamTemplate.Loop.Await
import StreamTemplate.Render.Call
import StreamTemplate.Operation.Arithmetic

/-!
# Evaluating expressions

Operands are evaluated from left to right. Code that awaits a value waits with it.
-/

namespace StreamTemplate

open Tag

namespace Eval

/-- The answer of one comparison. -/
def compare (op : CompareOp) (a b : Value) : Eval Bool :=
  match op with
  | .eq => work (Work.equal a b)
  | .ne => return !(← work (Work.equal a b))
  | .lt => act (Act.view (·.rank .less a b))
  | .le => act (Act.view (·.rank .lessOrEqual a b))
  | .gt => act (Act.view (·.rank .greater a b))
  | .ge => act (Act.view (·.rank .greaterOrEqual a b))
  | .isIn => act (Act.contains a b)
  | .notIn => return !(← act (Act.contains a b))
  | .is => return a.same b
  | .isNot => return !a.same b

/-- Whether a value counts as true. -/
def truth (v : Value) : Eval Bool :=
  work (Work.truth v)

/-- The identity of what is written out in the code that runs. -/
def constant : Eval Identity := do
  let site := (← get).site
  return .constant site.line site.col

/-- The value of a literal. -/
def literal (id : Identity) : Literal → Value
  | .none => .none
  | .bool b => .bool b
  | .int n => .int n
  | .float x => .float id x
  | .text s => .text s
  | .bytes data => .binary .bytes data
  | .ellipsis => .builtin .ellipsis

/-- The members that a starred part of a display brings. -/
def spread (v : Value) : Act (List Value) := do
  match ← Act.cursor? v with
  | some c => Act.drain c
  | none => Act.fail (.starNonIterable v.typeName)

end Eval

open Eval

/-- The name that stands for a truth value wherever it is used. -/
def debugName : String :=
  "__debug__"

section

variable (e : Engine)

mutual

/-- Whether an expression is written out in full: a literal, or a tuple of such. -/
def Tag.Expr.isConstant : Expr → Bool
  | .literal .. => true
  | .tuple parts _ => allConstant parts
  | _ => false

/-- Whether all of several expressions are written out in full. -/
def allConstant : List Expr → Bool
  | [] => true
  | e :: rest => e.isConstant && allConstant rest

end

mutual

/-- The value of an expression. -/
def Tag.Expr.eval : Expr → Eval Value
  | .literal v _ => return literal (← constant) v
  | .name id _ => if id = debugName then return .bool true else name id
  | .list parts _ => do work (newList (← evalParts parts).toArray)
  | .tuple parts _ => do
    let items ← evalParts parts
    if allConstant parts then return .tuple (← constant) items else work (newTuple items)
  | .dict entries _ => do work (newDict (← evalEntries entries))
  | .starred v _ => v.eval
  | .attribute v attr _ => do work (Work.readAttribute (← v.eval) attr)
  | .subscript v (.slice start stop step _) _ => do
    let v ← v.eval
    let start ← evalOption start
    let stop ← evalOption stop
    let step ← evalOption step
    work (Work.itemSlice v start stop step)
  | .subscript v index _ => do
    let v ← v.eval
    let index ← index.eval
    work (Work.item v index)
  | .slice .. => return .none
  | .call f args _ => do
    let f ← f.eval
    call f (← evalParts args)
  | .unary op v _ => do work (Work.unary op (← v.eval))
  | .binary op left right _ => do
    let left ← left.eval
    let right ← right.eval
    work (Work.binary op false left right)
  | .compare first rest _ => do evalCompared (← first.eval) rest
  | .both left right _ => do
    let left ← left.eval
    if ← truth left then right.eval else return left
  | .either left right _ => do
    let left ← left.eval
    if ← truth left then return left else right.eval
  | .conditional test yes no _ => do
    if ← truth (← test.eval) then yes.eval else no.eval
  | .await v _ => do
    let v ← v.eval
    run (awaitValue e v)
  | .yield .. | .foreign .. => return .none

/-- The value of an expression that may be missing. -/
def evalOption : Option Expr → Eval Value
  | none => return .none
  | some v => v.eval

/-- The values of the parts of a display or of the arguments of a call. -/
def evalParts : List Expr → Eval (List Value)
  | [] => return []
  | .starred v _ :: rest => do
    let members ← act (spread (← v.eval))
    return members ++ (← evalParts rest)
  | v :: rest => do
    let v ← v.eval
    return v :: (← evalParts rest)

/-- The keys and values of a dictionary display. -/
def evalEntries : List (Expr × Expr) → Eval (List Entry)
  | [] => return []
  | (key, value) :: rest => do
    let key ← key.eval
    let value ← value.eval
    return (key, value) :: (← evalEntries rest)

/-- The answer of chained comparisons: each operand is evaluated once, and the first that does not
hold ends the chain. -/
def evalCompared (left : Value) : List (CompareOp × Expr) → Eval Value
  | [] => return left
  | [(op, right)] => do
    let right ← right.eval
    return .bool (← compare op left right)
  | (op, right) :: rest => do
    let right ← right.eval
    if ← compare op left right then evalCompared right rest else return .bool false

end

end

end StreamTemplate
