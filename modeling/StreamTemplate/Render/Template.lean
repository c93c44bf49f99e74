import StreamTemplate.Program.Compile
import StreamTemplate.Render.Context
import StreamTemplate.Render.Convert
import StreamTemplate.Render.Scope
import StreamTemplate.Value.Recipe

/-!
# Templates

A compiled template together with how it is rendered: where its body runs, what escaped output goes
through, which names it sees, and what its streams begin with.
-/

namespace StreamTemplate

/-- How templates are rendered. -/
structure RenderOptions where
  /-- Code in tags may wait, and the body runs as a task of its own. -/
  enableAsync : Bool := false
  /-- The body starts on the next turn of the loop. -/
  defer : Bool := false
  escape : Escape := .html
  /-- The names that every render sees. -/
  globals : Scope := {}
  /-- What every stream is fed first. -/
  opening : List Recipe := []

/-- A template ready to be rendered. -/
structure Template where
  name : Option String
  filename : Option String
  source : String
  compiled : Program.Compiled Tag.Code
  options : RenderOptions

/-- A failed compilation as a fault. -/
def Program.CompileFault.toFault : Program.CompileFault → Fault
  | .template report => .template report none
  | .header fault file =>
    if fault.ofValue then .say .value fault.message
    else .say .syntaxFault s!"{fault.message} ({file}, line {fault.line.getD 1})"

/-- Refuses to compile code that waits where the language of the tags cannot express it. -/
def Program.Options.check (knowsAwait : Bool) (o : Program.Options) : Except Fault Unit :=
  if o.enableAsync && !knowsAwait then
    .error (.say .asyncUnsupported ("This Python interpreter cannot compile top-level 'await'; " ++
      "async templates are not supported"))
  else .ok ()

namespace Template

/-- Compiles a template. -/
def make (source : String) (name filename : Option String) (options : RenderOptions) :
    Except Fault Template := do
  let o : Program.Options := { name, filename, enableAsync := options.enableAsync }
  let compiled ← (Program.compile Tag.language o source).mapError (·.toFault)
  return { name, filename, source, compiled, options }

/-- The instructions of a template, one a line. -/
def listing (t : Template) : String :=
  Program.listing t.compiled.program

/-- The render context of a render that has just begun. -/
def context (t : Template) : RenderContext where
  name := t.name
  filename := t.filename
  source := some t.source

/-- A template in words. -/
def describe (t : Template) : String :=
  let name := (Diagnostic.firstGiven [t.name]).getD "(inline)"
  s!"<Template {name}>"

end Template

/-- A render: a template, the names its code sees, and the stream it fills. -/
structure Render where
  template : Template
  scope : Scope
  stream : Nat

end StreamTemplate
