import StreamTemplate.Loop.Context

/-!
# Sessions on render contexts

Render contexts are entered and left, the innermost one first. Each request is answered, and the
context that is current then is shown.
-/

namespace StreamTemplate

/-- What a session on render contexts can be asked to do. -/
inductive ContextRequest where
  /-- Makes a new context current. -/
  | enter (c : RenderContext)
  /-- Makes the context current that was so before the innermost one. -/
  | leave
  | setLine (line : Int)
  | location

/-- A session on render contexts. -/
structure ContextSession where
  store : Store := {}
  /-- What was current before each of the contexts entered, the innermost first. -/
  before : List (Option Nat) := []

namespace ContextSession

/-- Does something on the store. -/
def act {α : Type} (a : Act α) (s : ContextSession) : Except Fault α × ContextSession :=
  let (r, store) := a.run.run s.store
  (r, { s with store })

/-- Answers a request; only a location is a text. -/
def answer (request : ContextRequest) (s : ContextSession) :
    Except Fault (Option String) × ContextSession :=
  match request with
  | .enter c =>
    let before := s.store.context
    let (r, s) := s.act <| Act.always do Store.setContext (some (← Store.newContext c))
    ((fun _ => none) <$> r, { s with before := before :: s.before })
  | .leave =>
    match s.before with
    | [] => (.ok none, s)
    | before :: rest =>
      let (r, s) := s.act (Act.always (Store.setContext before))
      ((fun _ => none) <$> r, { s with before := rest })
  | .setLine line =>
    let (r, s) := s.act (Store.setCurrentLine line)
    ((fun _ => none) <$> r, s)
  | .location =>
    let (r, s) := s.act Store.currentContext
    ((fun c => some c.location) <$> r, s)

/-- The current render context. -/
def current (s : ContextSession) : Option RenderContext :=
  s.store.context?

end ContextSession

end StreamTemplate
