import StreamTemplate.Render.Start

/-!
# Rendering a source

Shortcuts that compile a source and render it at once, or keep what renders it.
-/

namespace StreamTemplate

/-- What the shortcut renders with: data that counts as false counts as none. -/
def shortcutArguments (v : Value) : Act (List Value) := do
  return if (← Act.heap).truth v then [v] else []

section

variable (e : Engine) (hasLoop : Bool) (source : String) (name filename : Option String)
  (options : RenderOptions)

/-- Compiles a source and renders it with data in one step. -/
def renderSource (data : Value) : Run Nat := do
  let t ← Run.ofExcept (Template.make source name filename options)
  t.render e hasLoop (← Run.act (shortcutArguments data)) []

/-- Compiles a source and gives what renders it, with arguments by position. -/
def compileSource : Except Fault (List Value → Run Nat) :=
  match Template.make source name filename options with
  | .ok t => .ok fun args => t.render e hasLoop args []
  | .error fault => .error fault

end

end StreamTemplate
