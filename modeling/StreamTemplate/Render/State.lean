import StreamTemplate.Loop.Process
import StreamTemplate.Operation.Member
import StreamTemplate.Render.Scope

/-!
# Code in tags while it runs

The code of a render sees its scope, works on the heap and may wait. Names are looked up in the
scope, and then in what the scope itself names for that, as it was when the code began to run:
usually the known names.
-/

namespace StreamTemplate

/-- What names are looked up in when the scope lacks them. -/
inductive Fallback where
  /-- The known names. -/
  | known
  /-- The members of a value. -/
  | members (v : Value)

/-- The state of a render between the nodes of its body. -/
structure RenderState where
  scope : Scope
  /-- The tag of the node being executed. -/
  tag : Option String := none
  /-- The place of the node being executed. -/
  site : Program.Site := ⟨0, 0⟩
  fallback : Fallback := .known

/-- Code in a tag while it runs. -/
abbrev Eval (α : Type) := ExceptT Fault (StateT RenderState (Process Store)) α

namespace Eval

variable {α : Type}

/-- Does something that runs and may wait. -/
def run (x : Run α) : Eval α :=
  fun s => do return (← x.run, s)

/-- Does something that does not wait. -/
def act (a : Act α) : Eval α :=
  run (Run.act a)

/-- Does something on the heap. -/
def work (w : Work α) : Eval α :=
  run (Run.work w)

/-- Fails. -/
def fail (fault : ValueFault) : Eval α :=
  throw fault.toFault

/-- Gives a name a value. -/
def setName (id : String) (v : Value) : Eval Unit :=
  modify fun s => { s with scope := s.scope.set id v }

/-- Begins a piece of code. A scope that does not say where to look further is given a dictionary of
the known names for that. -/
def beginCode : Eval Unit := do
  let v ← match (← get).scope.find? Scope.fallbackName with
    | some v => pure v
    | none =>
      let dict ← work (newDict (Builtin.table.map fun (name, v) => (.text name, v)))
      setName Scope.fallbackName dict
      pure dict
  let fallback := if v.same (.builtin .module) then .known else .members v
  modify fun s => { s with fallback }

/-- The value of a name that the scope lacks. -/
def knownName (id : String) : Eval Value := do
  let found ← match (← get).fallback with
    | .known => pure (Builtin.find? id)
    | .members (.cell .dict dict) => work (Work.valueOf? dict (.text id))
    | .members v => some <$> work (Work.item v (.text id))
  match found with
  | some v => return v
  | none => throw (.unbound id)

/-- The value of a name. -/
def name (id : String) : Eval Value := do
  match (← get).scope.find? id with
  | some v => return v
  | none => knownName id

/-- Takes a name away. -/
def deleteName (id : String) : Eval Unit := do
  match (← get).scope.find? id with
  | some _ => modify fun s => { s with scope := s.scope.erase id }
  | none => throw (.unbound id)

end Eval

end StreamTemplate
