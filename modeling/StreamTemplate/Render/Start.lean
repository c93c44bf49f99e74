import StreamTemplate.Loop.Consume
import StreamTemplate.Render.Body
import StreamTemplate.Render.Chunk
import StreamTemplate.Render.Execute
import StreamTemplate.Render.Failure

/-!
# Starting a render

The machine and the stage of a render in the event loop, and the ways in which a render starts: at
once, on the next turn of the loop, or as a task.
-/

namespace StreamTemplate

open Program

/-- The state of running render code. -/
abbrev Rendering := StateT RenderState (Process Store)

namespace Rendering

/-- Does something that does not wait and cannot fail. -/
def store {α : Type} (x : StateM Store α) : Rendering α :=
  fun s => do return (← Process.ofState x, s)

/-- The code of tags, run in the event loop. -/
def machine (e : Engine) (r : Render) (context : Nat) :
    Machine Tag.Code Iteration Rendering where
  enter site tag := do
    modify fun s => { s with tag, site }
    store (Store.setLine context site.line)
  evaluate code := code.eval e
  execute code := code.exec e
  assign code := code.exec e
  truth v := store fun s => (s.heap.truth v, s)
  cursor isAsync v := Eval.run (iteration isAsync v)
  advance c := Eval.run (c.advance e)
  setItem v := modify fun s => { s with scope := s.scope.set loopItem v }
  dropItem := modify fun s => { s with scope := s.scope.erase loopItem }
  literal text := Eval.act (pushChunk r.stream (.text text))
  output escaped v := Eval.act do
    let escape := r.template.options.escape
    pushChunk r.stream (← if escaped then escapedChunk escape v else rawChunk v)
  stuck := fun _ => .stuck

/-- The render context and the stream of a render. `before` is the render context that was current
before. -/
def stage (r : Render) (context : Nat) (before : Option Nat) : Stage Rendering where
  enterContext := store (Store.setContext (some context))
  leaveContext := store (Store.setContext before)
  location := store do return ((← get).contexts[context]?.map (·.location)).getD ""
  explain fault := do
    let state ← get
    store do
      let s ← get
      return ((s.contexts[context]?).getD {}).explain s.heap s.palette state.tag fault
  close fault := store do
    discard (Store.onStream r.stream (ChunkStream.close · fault)).run

end Rendering

/-- Runs the body of a render. -/
def Render.run (e : Engine) (r : Render) : Run Unit :=
  ExceptT.mk do
    let context ← Process.ofState (Store.newContext r.template.context)
    let before := (← Process.ofState get).context
    let compiled := r.template.compiled
    let (ended, _) ← (runBody (Rendering.machine e r context) (Rendering.stage r context before)
      compiled.isAsync patience compiled.body).run { scope := r.scope }
    return ended

/-! ### Starting -/

/-- A new stream, fed with what the streams of a template begin with. -/
def newStream (opening : List Recipe) : Act Nat := do
  let id := (← get).streams.size
  modify fun s => { s with streams := s.streams.push {} }
  (← buildAll opening).forM (pushChunk id)
  return id

/-- The fault of data that is no mapping. -/
def notMapping (what : String) (v : Value) : Fault :=
  .say .type s!"{what} data must be a mapping, got {v.className}"

/-- The names that data gives values to; keys that are no texts are no names. -/
def dataNames (heap : Heap) (id : Nat) : List (String × Value) :=
  (heap.dict id).entries.filterMap fun (key, v) =>
    match key with
    | .text name => some (name, v)
    | _ => none

/-- The data of a render, given by position: none, or one mapping. -/
def positionalData : List Value → Act (List (String × Value))
  | [] => return []
  | [.none] => return []
  | [.cell .dict id] => return dataNames (← get).heap id
  | [v] => throw (notMapping "render()" v)
  | args => throw (.say .type
      s!"render() takes at most 1 positional argument (a mapping), got {args.length}")

/-- The ways to hand data by name to a template or to the library that has it. -/
inductive DataCall where
  | render
  /-- The template itself is called. -/
  | direct
  /-- The stream is read as well. -/
  | renderText
  /-- The library is given the name of the template. -/
  | library
  deriving DecidableEq, Repr

namespace DataCall

/-- What is called. -/
def label : DataCall → String
  | render => "Template.render()"
  | direct => "Template.__call__()"
  | renderText => "Template.render_async()"
  | library => "Environment.render()"

/-- The names of arguments that are given otherwise. -/
def ownNames : DataCall → List String
  | library => ["self", "name"]
  | _ => ["self"]

/-- Builds data and hands it on by name; no name may be that of an argument given otherwise. -/
def build (call : DataCall) (data : List (String × Recipe)) : Act (List (String × Value)) := do
  let data ← buildNamed data
  match data.find? fun (name, _) => name ∈ call.ownNames with
  | some (name, _) =>
    throw (.say .type s!"{call.label} got multiple values for argument '{name}'")
  | none => return data

end DataCall

/-- The fault of rendering without the event loop that a template needs. -/
def noLoop (t : Template) : Fault :=
  let kind := if t.options.enableAsync then "an async" else "a deferred"
  .render
    { message := s!"Rendering {kind} template requires a running event loop"
      expression := none
      name := t.name
      line := none
      suggestion := some "Call render() from inside a coroutine, e.g. under asyncio.run()"
      snippet := none
      code := .noEventLoop } none none

/-- Sets up a render: its scope and its stream. -/
def Template.prepare (t : Template) (data : List (String × Value)) : Act Render := do
  let scope := (Scope.initial.setAll t.options.globals.entries).setAll data
  return { template := t, scope, stream := ← newStream t.options.opening }

/-- Makes a coroutine a task that is known as the body of a render. -/
def spawnBody (coroutine : Nat) : StateM Store Unit := do
  let id ← Store.newTask coroutine none
  modify fun s => { s with bodies := id :: s.bodies }

/-- Starts a render. Without a loop only a body that runs at once can. -/
def Render.start (e : Engine) (hasLoop : Bool) (r : Render) : Run Unit := do
  let o := r.template.options
  if o.enableAsync || o.defer then
    if !hasLoop then throw (noLoop r.template)
    Run.act <| Act.always <|
      if o.enableAsync then do
        let coroutine ← Store.newCoroutine (.render r)
        if o.defer then Store.enqueue (.spawn (← get).context coroutine) else spawnBody coroutine
      else do Store.enqueue (.render (← get).context r)
  else r.run e

/-- Renders a template with data and gives the stream. -/
def Template.startWith (e : Engine) (hasLoop : Bool) (t : Template)
    (data : List (String × Value)) : Run Nat := do
  let r ← Run.act (t.prepare data)
  r.start e hasLoop
  return r.stream

/-- Renders a template with arguments by position and by name and gives the stream. -/
def Template.render (e : Engine) (hasLoop : Bool) (t : Template) (args : List Value)
    (named : List (String × Value)) : Run Nat := do
  let data ← Run.act (positionalData args)
  t.startWith e hasLoop (data ++ named)

end StreamTemplate
