import StreamTemplate.Tag.Parser

/-!
# Constructs in their places

Some constructs are grammatical anywhere but allowed only in certain places: `await` needs code that
may wait, `break` and `continue` a loop around them, `yield` and `return` a function, a starred part
a list or tuple around it; and one name cannot be assigned. The check goes through the code in the
order in which it would run and reports the first construct out of place.
-/

namespace StreamTemplate.Tag

/-- The outcome of a check. -/
abbrev Checked := Except CodeFault Unit

/-- Refuses to assign or delete the one name with a fixed value. -/
def checkName (use : TargetUse) (id : String) (line : Nat) : Checked :=
  let action := if use = .delete then "delete" else "assign to"
  if id = "__debug__" then faultAt s!"cannot {action} {id}" line else .ok ()

mutual

/-- Checks an expression that is evaluated; `mayAwait` holds in code that may wait. -/
def Expr.check (mayAwait : Bool) : Expr → Checked
  | .literal .. | .name .. => .ok ()
  | .list parts _ => checkParts mayAwait parts
  | .tuple parts _ => checkParts mayAwait parts
  | .dict entries _ => checkEntries mayAwait entries
  | .starred _ line => faultAt "can't use starred expression here" line
  | .attribute e _ _ => e.check mayAwait
  | .subscript e index _ => do e.check mayAwait; index.check mayAwait
  | .slice start stop step _ => do
    checkOption mayAwait start
    checkOption mayAwait stop
    checkOption mayAwait step
  | .call f args _ => do f.check mayAwait; checkParts mayAwait args
  | .unary _ e _ => e.check mayAwait
  | .binary _ left right _ => do left.check mayAwait; right.check mayAwait
  | .compare first rest _ => do first.check mayAwait; checkCompared mayAwait rest
  | .both left right _ => do left.check mayAwait; right.check mayAwait
  | .either left right _ => do left.check mayAwait; right.check mayAwait
  | .conditional test yes no _ => do test.check mayAwait; yes.check mayAwait; no.check mayAwait
  | .await e line => do
    unless mayAwait do faultAt "'await' outside function" line
    e.check mayAwait
  | .yield _ line => faultAt "'yield' outside function" line
  | .foreign what line => faultAt s!"{what} has no meaning here" line

/-- Checks an expression that may be missing. -/
def checkOption (mayAwait : Bool) : Option Expr → Checked
  | none => .ok ()
  | some e => e.check mayAwait

/-- Checks the parts of a display or the arguments of a call. -/
def checkParts (mayAwait : Bool) : List Expr → Checked
  | [] => .ok ()
  | .starred e _ :: rest => do e.check mayAwait; checkParts mayAwait rest
  | e :: rest => do e.check mayAwait; checkParts mayAwait rest

/-- Checks the entries of a dictionary. -/
def checkEntries (mayAwait : Bool) : List (Expr × Expr) → Checked
  | [] => .ok ()
  | (key, value) :: rest => do
    key.check mayAwait
    value.check mayAwait
    checkEntries mayAwait rest

/-- Checks the operands of chained comparisons. -/
def checkCompared (mayAwait : Bool) : List (CompareOp × Expr) → Checked
  | [] => .ok ()
  | (_, e) :: rest => do e.check mayAwait; checkCompared mayAwait rest

end

/-- The number of starred parts. -/
def starCount (parts : List Expr) : Nat :=
  (parts.filter fun e => match e with | .starred .. => true | _ => false).length

/-- Refuses several starred parts in one target. -/
def checkStars (line : Nat) (parts : List Expr) : Checked :=
  if starCount parts > 1 then faultAt "multiple starred expressions in assignment" line else .ok ()

mutual

/-- Checks a target; of its parts at most one may be starred. -/
def Expr.checkTarget (use : TargetUse) (mayAwait : Bool) : Expr → Checked
  | .name id line => checkName use id line
  | .attribute e attr line => do e.check mayAwait; checkName use attr line
  | .subscript e index _ => do e.check mayAwait; index.check mayAwait
  | .list parts line => do checkStars line parts; checkEachTarget use mayAwait parts
  | .tuple parts line => do checkStars line parts; checkEachTarget use mayAwait parts
  | .starred _ line => faultAt "starred assignment target must be in a list or tuple" line
  | _ => .ok ()

/-- Checks each of several targets. -/
def checkEachTarget (use : TargetUse) (mayAwait : Bool) : List Expr → Checked
  | [] => .ok ()
  | .starred e _ :: rest => do
    e.checkTarget use mayAwait
    checkEachTarget use mayAwait rest
  | e :: rest => do
    e.checkTarget use mayAwait
    checkEachTarget use mayAwait rest

end

/-- Checks the assignment of a loop item; such an assignment never waits. -/
def Expr.checkLoopTarget (e : Expr) : Checked :=
  e.checkTarget .assign false

mutual

/-- Checks a statement; `inLoop` holds inside a loop. -/
def Stmt.check (mayAwait inLoop : Bool) : Stmt → Checked
  | .expr e => e.check mayAwait
  | .assign targets value => do
    value.check mayAwait
    targets.forM (·.checkTarget .assign mayAwait)
  | .augmented target _ value => do
    match target with
    | .name .. => .ok ()
    | e => e.check mayAwait
    value.check mayAwait
    target.checkTarget .assign mayAwait
  | .pass => .ok ()
  | .delete targets => targets.forM (·.checkTarget .delete mayAwait)
  | .break line => unless inLoop do faultAt "'break' outside loop" line
  | .continue line => unless inLoop do faultAt "'continue' not properly in loop" line
  | .return _ line => faultAt "'return' outside function" line
  | .ifElse test body orElse => do
    test.check mayAwait
    checkBody mayAwait inLoop body
    checkBody mayAwait inLoop orElse
  | .forIn isAsync target iter body orElse line => do
    if isAsync && !mayAwait then faultAt "'async for' outside async function" line
    iter.check mayAwait
    target.checkTarget .assign mayAwait
    checkBody mayAwait true body
    checkBody mayAwait inLoop orElse
  | .whileDo test body orElse => do
    test.check mayAwait
    checkBody mayAwait true body
    checkBody mayAwait inLoop orElse
  | .withDo isAsync items body line => do
    if isAsync && !mayAwait then faultAt "'async with' outside async function" line
    items.forM fun (manager, target) => do
      manager.check mayAwait
      match target with
      | some e => e.checkTarget .assign mayAwait
      | none => .ok ()
    checkBody mayAwait inLoop body
  | .foreign what line => faultAt s!"{what} has no meaning here" line

/-- Checks statements in order. -/
def checkBody (mayAwait inLoop : Bool) : List Stmt → Checked
  | [] => .ok ()
  | s :: rest => do
    s.check mayAwait inLoop
    checkBody mayAwait inLoop rest

end

end StreamTemplate.Tag
