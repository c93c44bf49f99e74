import StreamTemplate.Loop.Run
import StreamTemplate.Session.Request

/-!
# Running a session

After each request the event loop runs until it is settled, and what has happened is recorded.
-/

namespace StreamTemplate

/-- A session: its event loop, the template it renders, and the tasks of the consumers' calls. -/
structure Session where
  loop : EventLoop := {}
  template : Option Template := none
  /-- The calls by name, the last first, each with its task. -/
  calls : List (String × Nat) := []

namespace Session

/-- Does something that does not wait. -/
def act {α : Type} (a : Act α) (s : Session) : Except Fault α × Session :=
  let (r, loop) := s.loop.withStore a.run
  (r, { s with loop })

/-- Starts a coroutine as a consumer's call. -/
def startCall (id : String) (body : Body) : Act Nat := do
  let coroutine ← Act.always (Store.newCoroutine body)
  Act.always (Store.newTask coroutine (some id))

/-- The fault of completing a future that is done. -/
def alreadyDone : Fault :=
  .say .invalidState "invalid state"

/-- The fault of failing a future with the signal for the end of a loop. -/
def badFailure : Fault :=
  .say .type "StopIteration interacts badly with generators and cannot be raised into a Future"

/-- Completes the future of a gate. -/
def openGate (gate : String) (progress : Progress) : Act Unit := do
  let id ← Act.always (Store.gate gate)
  if !(← get).isPending id then throw alreadyDone
  Act.always (Store.complete id progress)

/-- Fails the future of a gate. -/
def rejectGate (gate : String) (fault : Fault) : Act Unit := do
  let id ← Act.always (Store.gate gate)
  if !(← get).isPending id then throw alreadyDone
  if fault.cls = .stopIteration then throw badFailure
  Act.always (Store.complete id (.failed fault))

/-- The state of a coroutine in words. -/
def stateLabel : CoroutineState → String
  | .created => "CORO_CREATED"
  | .running => "CORO_RUNNING"
  | .suspended _ => "CORO_SUSPENDED"
  | .closed => "CORO_CLOSED"

/-- The state of a coroutine among the shared values. -/
def inspect (source : String) : Act Answer := do
  let s ← get
  match s.shared.lookup source with
  | some (.process .coroutine id) => return .text (stateLabel (s.coroutineState id))
  | v => Act.fail (.noAttribute (v.getD .none).typeName "cr_running")

/-- Cancels all bodies that still run as tasks. -/
def cancelBodies : Act (List Bool) := do
  let s ← get
  let running := s.bodies.reverse.filter s.isPending
  running.mapM fun id => Act.always (Store.cancel id)

/-- A stream by number. -/
def streamOf (s : Store) (id : Nat) : ChunkStream :=
  (s.streams[id]?).getD {}

/-- Answers a request that needs no render. -/
def perform : Request → Act Answer
  | .push chunk => do
    let chunk ← chunk.build
    pushChunk (← currentStream) chunk
    return .nothing
  | .close fault => do
    let fault ← buildFault? fault
    Store.onStream (← currentStream) (ChunkStream.close · fault)
    return .nothing
  | .abort fault => do
    let fault ← buildFault? fault
    Store.onStream (← currentStream) (ChunkStream.abort · fault)
    return .nothing
  | .resolve gate value => do
    openGate gate (.finished (← value.build))
    return .nothing
  | .reject gate fault => do
    rejectGate gate (← fault.build)
    return .nothing
  | .cancelGate gate => do
    return .flag (← Act.always do Store.cancel (← Store.gate gate))
  | .inspect source => inspect source
  | .cancelBodies => return .flags (← cancelBodies)
  | .describe => do return .text (streamOf (← get) (← currentStream)).describe
  | _ => return .nothing

/-- Starts a render and makes its stream the current one. -/
def startRender (start : Run Nat) (s : Session) : Except Fault Answer × Session :=
  let (r, loop) := s.loop.runAside start
  let s := { s with loop }
  match r with
  | some (.ok id) =>
    let store := { s.loop.store with stream := some id }
    (.ok (.stream (streamOf store id)), { s with loop := { s.loop with store } })
  | some (.error fault) => (.error fault, s)
  | none => (.ok .nothing, s)

/-- Data for a template that may only be a mapping or absent. -/
def plainData (v : Value) : Act (List (String × Value)) := do
  match v with
  | .none => return []
  | .cell .dict id => return dataNames (← get).heap id
  | v => throw (notMapping "Template" v)

/-- Starts a consumer's call. -/
def call (id : String) (body : Act Body) (s : Session) : Except Fault Answer × Session :=
  let (r, s) := s.act do startCall id (← body)
  match r with
  | .ok task => (.ok .nothing, { s with calls := (id, task) :: s.calls })
  | .error fault => (.error fault, s)

/-- Answers a request. -/
def answer (request : Request) (s : Session) : Except Fault Answer × Session :=
  match request, s.template with
  | .call id request, _ => s.call id do return .call (← currentStream) request
  | .drain id source, _ => s.call id do
    return .collect (((← get).shared.lookup source).getD .none)
  | .cancel id, _ =>
    match s.calls.lookup id with
    | some task =>
      let (running, s) := s.act (Act.always (Store.cancel task))
      (.flag <$> running, s)
    | none => (.ok (.flag false), s)
  | .render direct args data, some t =>
    s.startRender do
      let args ← Run.act (buildAll args)
      let call : DataCall := if direct then .direct else .render
      t.render mainEngine true args (← Run.act (call.build data))
  | .renderText id data, some t => s.call id do
    return .renderText t (← DataCall.renderText.build data)
  | .renderPlainly data, some t =>
    let plain := { t with options := { t.options with escape := .html, opening := [] } }
    let (r, s) := s.startRender do
      let data ← Run.act do plainData (← data.build)
      plain.startWith mainEngine true data
    ((fun _ => .nothing) <$> r, s)
  | request, _ => s.act (perform request)

/-- Answers a request, settles the loop and records what has happened. -/
def step (request : Request) (s : Session) : Record × Session :=
  let (answer, s) := s.answer request
  let loop := s.loop.settle EventLoop.settleBound
  let store := loop.store
  let record : Record :=
    { answer
      finished := store.reports.reverse
      log := store.log.reverse
      stream := store.stream.map (streamOf store) }
  (record, { s with loop := { loop with store := { store with reports := [], log := [] } } })

/-- The calls that are not finished. -/
def unfinished (s : Session) : List String :=
  (s.calls.filter fun (_, task) => s.loop.store.isPending task).map (·.1)

/-- Builds the values that a session shares. -/
def share (sources : List (String × Recipe)) : Act Unit :=
  sources.forM fun (name, recipe) => do
    let v ← recipe.build
    modify fun s => { s with shared := (name, v) :: s.shared }

/-- A session on a stream that is fed some chunks first. -/
def onStream (palette : Diagnostic.Palette) (sources : List (String × Recipe))
    (opening : List Recipe) : Except Fault Session :=
  let start : Session := { loop := { store := { palette } } }
  let (r, s) := start.act do
    share sources
    let id ← newStream opening
    modify fun s => { s with stream := some id }
  r.map fun () => s

/-- A session on a template. -/
def onTemplate (palette : Diagnostic.Palette) (sources : List (String × Recipe))
    (globals : List (String × Recipe)) (make : Scope → Except Fault Template) :
    Except Fault Session :=
  let start : Session := { loop := { store := { palette } } }
  let (r, s) := start.act do
    share sources
    Act.ofExcept (make (({} : Scope).setAll (← buildNamed globals)))
  r.map fun template => { s with template := some template }

end Session

end StreamTemplate
