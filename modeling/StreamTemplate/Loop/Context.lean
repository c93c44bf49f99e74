import StreamTemplate.Loop.Store

/-!
# The current render context

While the body of a template runs its render context is current. Contexts nest: whoever makes a new
one current keeps the number of the one from before, and makes that current again in the end.
-/

namespace StreamTemplate.Store

/-- A new render context, which is not current yet. -/
def newContext (c : RenderContext) : StateM Store Nat :=
  modifyGet fun s => (s.contexts.size, { s with contexts := s.contexts.push c })

/-- Makes a render context current, or none. -/
def setContext (id : Option Nat) : StateM Store Unit :=
  modify fun s => { s with context := id }

/-- The current render context. -/
def context? (s : Store) : Option RenderContext :=
  s.context.bind (s.contexts[·]?)

/-- Notes the line that a render has come to. -/
def setLine (id : Nat) (line : Int) : StateM Store Unit :=
  modify fun s => { s with contexts := s.contexts.modify id fun c => { c with line } }

/-- The fault of asking for the render context where there is none. -/
def noContext : Fault :=
  .say .runtime "Not in a render context"

/-- The current render context, which has to be there. -/
def currentContext : Act RenderContext := do
  match (← get).context? with
  | some c => return c
  | none => throw noContext

/-- Notes the line that the current render has come to. -/
def setCurrentLine (line : Int) : Act Unit := do
  let _ ← currentContext
  match (← get).context with
  | some id => Act.always (setLine id line)
  | none => return

end StreamTemplate.Store
