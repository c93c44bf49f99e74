import StreamTemplate.Tag.Reader

/-!
# Targets

What can stand on the left of an assignment, behind `del` and in the head of a loop. Where something
else stands there, the first part that cannot be a target is at fault.
-/

namespace StreamTemplate.Tag

open Reader

/-- What is done to a target. -/
inductive TargetUse where
  | assign
  | delete
  | loop
  deriving DecidableEq

mutual

/-- The first part of an expression that cannot be a target. In the head of a loop a comparison is
taken for the words up to `in`, and any other comparison is let pass. -/
def Expr.notTarget? (use : TargetUse) : Expr → Option Expr
  | .name .. | .attribute .. | .subscript .. => none
  | .list parts _ => notTargets? use parts
  | .tuple parts _ => notTargets? use parts
  | .starred e line => if use = .delete then some (.starred e line) else e.notTarget? use
  | .compare first rest line =>
    match use, rest with
    | .loop, (.isIn, _) :: _ => first.notTarget? use
    | .loop, _ => none
    | _, _ => some (.compare first rest line)
  | e => some e

/-- The first part among several that cannot be a target. -/
def notTargets? (use : TargetUse) : List Expr → Option Expr
  | [] => none
  | e :: rest =>
    match e.notTarget? use with
    | some part => some part
    | none => notTargets? use rest

end

/-- Reports the first part that cannot be a target; without one the rule gives nothing. -/
def failTarget {α : Type} (use : TargetUse) (e : Expr) : Reader α :=
  match e.notTarget? use with
  | some part =>
    let action := if use = .delete then "delete" else "assign to"
    failAt s!"cannot {action} {part.describe}" part.line
  | none => giveUp

namespace Target

variable (call : Rule → Reader Expr)

/-- One or several targets; several are a tuple. -/
def starTargets : Reader Expr := do
  let start ← line
  let first ← call .starTarget
  let rest ← many do op ","; call .starTarget
  let comma ← optional (op ",")
  return if rest.isEmpty && comma.isNone then first else .tuple (first :: rest) start

/-- A target, perhaps starred once. -/
def starTarget : Reader Expr :=
  oneOf [
    do
      let start ← line
      op "*"
      notAhead (op "*")
      return .starred (← call .starTarget) start,
    call .plainTarget]

/-- Whether the target goes on with another access. -/
def goesOn : Reader Unit :=
  oneOf [op "(", op "[", op "."]

/-- An attribute or an item as the last access of a target. -/
def lastAccess : Reader Expr := do
  let start ← line
  let e ← call .targetPrimary
  oneOf [
    do
      op "."
      let attr ← name
      notAhead goesOn
      return .attribute e attr start,
    do
      op "["
      let index ← call .slices
      op "]"
      notAhead goesOn
      return .subscript e index start]

/-- An attribute, an item, a name, or targets in brackets. -/
def plainTarget : Reader Expr :=
  oneOf [lastAccess call, call .targetAtom]

/-- A name as a target. -/
def nameTarget : Reader Expr := do
  let start ← line
  return .name (← name) start

/-- Parts of a list or tuple of targets. -/
def parts (part : Rule) : Reader (List Expr) :=
  listed (call part)

/-- A name, or targets in brackets. -/
def targetAtom : Reader Expr := do
  let start ← line
  oneOf [
    nameTarget,
    do op "("; let e ← call .plainTarget; op ")"; return e,
    do
      op "("
      let items ← optional (oneOf [
        do
          let first ← call .starTarget
          let rest ← many1 do op ","; call .starTarget
          let _ ← optional (op ",")
          return first :: rest,
        do let first ← call .starTarget; op ","; return [first]])
      op ")"
      return .tuple (items.getD []) start,
    do
      op "["
      let items ← optional (parts call .starTarget)
      op "]"
      return .list (items.getD []) start]

/-- The object whose attribute or item is the target: something that goes on with another access. -/
def targetPrimary (generator : Reader Expr) : Reader Expr := do
  let start ← line
  let first ← call .atom
  ahead goesOn
  extend (fun e => oneOf [
    do op "."; let attr ← name; ahead goesOn; return .attribute e attr start,
    do
      op "["
      let index ← call .slices
      op "]"
      ahead goesOn
      return .subscript e index start,
    do let g ← generator; ahead goesOn; return .call e [g] start,
    do
      op "("
      let args ← optional (call .arguments)
      op ")"
      ahead goesOn
      return .call e (args.elim [] Expr.parts) start]) first

/-- The target of an augmented assignment. -/
def singleTarget : Reader Expr :=
  oneOf [lastAccess call, nameTarget, do op "("; let e ← call .singleTarget; op ")"; return e]

/-- A target behind `del`. -/
def deleted : Reader Expr := do
  let start ← line
  oneOf [
    lastAccess call,
    nameTarget,
    do op "("; let e ← call .deleted; op ")"; return e,
    do
      op "("
      let items ← optional (parts call .deleted)
      op ")"
      return .tuple (items.getD []) start,
    do
      op "["
      let items ← optional (parts call .deleted)
      op "]"
      return .list (items.getD []) start]

end Target

end StreamTemplate.Tag
