import StreamTemplate.Loop.Build
import StreamTemplate.Loop.Context
import StreamTemplate.Render.State

/-!
# Calls

The functions that data brings along follow a script; built-in functions and methods are known
already.
-/

namespace StreamTemplate

namespace Eval

/-- A text that may be absent, as a value. -/
def textOrNone : Option String → Value
  | some s => .text s
  | none => .none

/-- A part of a render context. -/
def contextPart (c : RenderContext) : ContextField → Value
  | .line => .int c.line
  | .location => .text c.location
  | .source => textOrNone c.source
  | .templateName => textOrNone c.name
  | .filename => textOrNone c.filename

/-- Calls a data function. -/
def callScript : FunctionScript → Act Value
  | .mk log raises part hasContext returns => do
    match log with
    | some text => modify fun s => { s with log := text :: s.log }
    | none => pure ()
    match raises with
    | some fault => throw (← fault.build)
    | none => pure ()
    match part with
    | some field => return contextPart (← Store.currentContext) field
    | none =>
      if hasContext then return .bool (← get).context?.isSome
      else match returns with
        | some recipe => recipe.build
        | none => return .none

/-- Calls a value. -/
def call (f : Value) (args : List Value) : Eval Value := do
  match f with
  | .builtin f => act (Act.callBuiltin f args)
  | .typeForm _ type _ => act (Act.callBuiltin (.type type) args)
  | .method _ receiver method => act (Act.callMethod receiver method args)
  | .cell .function id =>
    match (← act Act.heap).cell? id with
    | some (.function script) => act (callScript script)
    | _ => return .none
  | f => fail (.notCallable f.typeName)

end Eval

end StreamTemplate
