import StreamTemplate.Render.Shortcut
import StreamTemplate.Session.Run

/-!
# Single renders

One render from its start to the end of its stream, without requests in between: outside of any
event loop, where only a body that runs at once can, or by one of the shortcuts.
-/

namespace StreamTemplate

namespace EventLoop

/-- Runs code that has to end without waiting. -/
def runAtOnce {α : Type} (x : Run α) (l : EventLoop) : Except Fault α × EventLoop :=
  match l.runAside x with
  | (some r, l) => (r, l)
  | (none, l) => (.error resumedEarly, l)

/-- Starts a render and collects the chunks of its stream. -/
def collectRender (start : Run Nat) (l : EventLoop) : Except Fault Value × EventLoop :=
  match l.runAtOnce start with
  | (.ok stream, l) => l.finish (.call stream .collect)
  | (.error fault, l) => (.error fault, l)

end EventLoop

/-- A source with all that makes it a template but for the values of its globals. -/
structure Draft where
  source : String
  name : Option String
  filename : Option String
  options : RenderOptions
  /-- The names that every render sees. -/
  globals : List (String × Recipe)

namespace Draft

/-- The options with the values of the globals. -/
def complete (d : Draft) : Act RenderOptions := do
  return { d.options with globals := ({} : Scope).setAll (← buildNamed d.globals) }

/-- Renders a template outside of any event loop; the stream is shown as it is then. -/
def renderWithoutLoop (d : Draft) (data : List (String × Recipe)) (l : EventLoop) :
    Except Fault ChunkStream × EventLoop :=
  let (r, l) := l.runAtOnce do
    let options ← Run.act d.complete
    let t ← Run.ofExcept (Template.make d.source d.name d.filename options)
    t.render mainEngine false [] (← Run.act (DataCall.render.build data))
  (Session.streamOf l.store <$> r, l)

/-- Renders by the shortcut and collects the chunks. -/
def renderShortly (d : Draft) (data : Recipe) (l : EventLoop) : Except Fault Value × EventLoop :=
  l.collectRender do
    let options ← Run.act d.complete
    renderSource mainEngine true d.source d.name d.filename options (← Run.act data.build)

/-- Renders again and again, with other arguments each time, and collects the chunks. -/
def collectEach (renderer : List Value → Run Nat) :
    List (List Recipe) → EventLoop → List (Except Fault Value) × EventLoop
  | [], l => ([], l)
  | args :: rest, l =>
    let (r, l) := l.collectRender do renderer (← Run.act (buildAll args))
    let (others, l) := collectEach renderer rest l
    (r :: others, l)

/-- Compiles once and renders for each list of arguments. -/
def renderEach (d : Draft) (calls : List (List Recipe)) (l : EventLoop) :
    Except Fault (List (Except Fault Value)) × EventLoop :=
  match l.withStore d.complete.run with
  | (.error fault, l) => (.error fault, l)
  | (.ok options, l) =>
    match compileSource mainEngine true d.source d.name d.filename options with
    | .ok renderer =>
      let (results, l) := collectEach renderer calls l
      (.ok results, l)
    | .error fault => (.error fault, l)

end Draft

end StreamTemplate
