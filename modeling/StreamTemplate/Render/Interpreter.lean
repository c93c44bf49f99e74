import StreamTemplate.Program.Block
import StreamTemplate.Value.Fault

/-!
# Running the body of a template

The body is gone through node by node. What the nodes do is the business of a machine: it evaluates
the code in tags, goes through iterables, assigns loop items and appends output. The way from node
to node is the same for every machine and every type of code. `break` and `continue` travel up to
the innermost loop as part of a node's result.
-/

namespace StreamTemplate

open Program

universe u

/-- What the nodes of a body can do, in a monad `m`, with code of type `κ` and cursors of
type `γ`. -/
structure Machine (κ γ : Type) (m : Type → Type u) where
  /-- Takes notice that a node is executed, of its place and its tag. -/
  enter : Site → Option String → m Unit
  /-- Evaluates an expression. -/
  evaluate : κ → ExceptT Fault m Value
  /-- Executes statements. -/
  execute : κ → ExceptT Fault m Unit
  /-- Assigns the current item of a loop to its target. -/
  assign : κ → ExceptT Fault m Unit
  /-- Whether a value counts as true. -/
  truth : Value → m Bool
  /-- Begins to go through a value; asynchronously if told so. -/
  cursor : Bool → Value → ExceptT Fault m γ
  /-- The next item and the cursor behind it, or nothing at the end. -/
  advance : γ → ExceptT Fault m (Option (Value × γ))
  /-- Makes a value the current item of a loop. -/
  setItem : Value → m Unit
  /-- Leaves no item current. -/
  dropItem : m Unit
  /-- Appends literal text to the output. -/
  literal : String → ExceptT Fault m Unit
  /-- Appends a value to the output, escaped if told so. -/
  output : Bool → Value → ExceptT Fault m Unit
  /-- Does not go on. -/
  stuck : {α : Type} → m α

/-- How the nodes of a body are left. -/
inductive Flow where
  | next
  | breakLoop
  | continueLoop
  deriving DecidableEq, Repr

section

variable {κ γ : Type} {m : Type → Type u} [Monad m] (h : Machine κ γ m)

/-- Does something last, whether something else fails or not. -/
def ensuring {α : Type} (x : ExceptT Fault m α) (last : m Unit) : ExceptT Fault m α :=
  ExceptT.mk do
    let r ← x.run
    last
    return r

/-- Does a body for each item behind a cursor: the item becomes current, is assigned to the
target, and the body runs. The number of rounds is bounded. -/
def forEach (target : κ) (body : ExceptT Fault m Flow) : Nat → γ → ExceptT Fault m Unit
  | 0, _ => ExceptT.lift h.stuck
  | rounds + 1, c => do
    match ← h.advance c with
    | none => return
    | some (v, c) =>
      h.setItem v
      h.assign target
      match ← body with
      | .breakLoop => return
      | _ => forEach target body rounds c

/-- Does a body as long as a condition holds. After each round the loop is entered again. The
number of rounds is bounded. -/
def whileTrue (test : ExceptT Fault m Bool) (body : ExceptT Fault m Flow) (again : m Unit) :
    Nat → ExceptT Fault m Unit
  | 0 => ExceptT.lift h.stuck
  | rounds + 1 => do
    if ← test then
      match ← body with
      | .breakLoop => return
      | _ =>
        again
        whileTrue test body again rounds

/-- Runs a loop over a value. Code that may wait gets the value first and then sees to it that no
item stays current; code that may not does so from the start. -/
def overItems (waits isAsync : Bool) (iter : ExceptT Fault m Value)
    (loop : γ → ExceptT Fault m Unit) : ExceptT Fault m Unit :=
  if waits then do
    let v ← iter
    ensuring (do loop (← h.cursor isAsync v)) h.dropItem
  else ensuring (do loop (← h.cursor isAsync (← iter))) h.dropItem

/-- Evaluates a condition. -/
def holds (test : κ) : ExceptT Fault m Bool := do
  h.truth (← h.evaluate test)

variable (waits : Bool) (rounds : Nat)

mutual

/-- Runs nodes in order, as far as they go on to the next one. -/
def runNodes : List (Node κ) → ExceptT Fault m Flow
  | [] => return .next
  | node :: rest => do
    h.enter node.site node.tag?
    match ← runNode node with
    | .next => runNodes rest
    | flow => return flow

/-- Runs one node. -/
def runNode : Node κ → ExceptT Fault m Flow
  | .literal _ text => do
    h.literal text
    return .next
  | .output _ escaped _ code _ => do
    h.output escaped (← h.evaluate code)
    return .next
  | .simple _ _ code _ => do
    h.execute code
    return .next
  | .control _ isBreak _ => return if isBreak then .breakLoop else .continueLoop
  | .choice _ branches _ => runBranches branches
  | .forLoop _ isAsync target iter body _ => do
    overItems h waits (waits && isAsync) (h.evaluate iter)
      (forEach h target (runNodes body) rounds)
    return .next
  | .whileLoop site test body tag => do
    whileTrue h (holds h test) (runNodes body) (h.enter site (some tag)) rounds
    return .next

/-- Runs the first of several clauses whose condition holds, if there is one. -/
def runBranches : List (Branch κ) → ExceptT Fault m Flow
  | [] => return .next
  | .mk none body _ :: _ => runNodes body
  | .mk (some test) body _ :: rest => do
    if ← holds h test then runNodes body else runBranches rest

end

end

end StreamTemplate
