import StreamTemplate.Library.Basic
import StreamTemplate.Session.Single

/-!
# Sessions on a library

A library is asked for templates and renders them, and what it holds can change meanwhile. Templates
are known by the order in which they were first shown.
-/

namespace StreamTemplate

/-- What a session on a library can be asked to do. -/
inductive LibraryRequest where
  | get (name : String) (enableAsync defer : Option Bool)
  | fromSource (source : String) (name : Option String) (enableAsync defer : Option Bool)
  /-- Renders the template of a name and reads its stream. -/
  | render (name : String) (args : List Recipe) (data : List (String × Recipe))
  /-- Renders a template shown before and reads its stream. -/
  | renderShown (number : Nat) (data : List (String × Recipe))
  | names
  | clear
  | describe
  | source (name : String)
  | setSource (name source : String)
  | eraseSource (name : String)
  | setGlobal (name : String) (value : Recipe)
  | setDefaults (enableAsync defer : Bool)

/-- The answer to such a request. -/
inductive LibraryAnswer where
  | nothing
  | value (v : Value)
  /-- A template and the number under which it is known. -/
  | template (number : Nat) (t : Template)
  | names (names : List String)
  | text (s : String)
  | source (source : String) (filename : Option String)

/-- A session on a library. -/
structure LibrarySession where
  loop : EventLoop := {}
  library : Library
  /-- The templates shown, in order. -/
  shown : List Edition := []

namespace LibrarySession

/-- Shows a template. -/
def showEdition (edition : Edition) (s : LibrarySession) : LibraryAnswer × LibrarySession :=
  match s.shown.findIdx? (·.number = edition.number) with
  | some number => (.template number edition.template, s)
  | none =>
    (.template s.shown.length edition.template, { s with shown := s.shown ++ [edition] })

/-- Shows what the library gives, if it gives a template. -/
def showResult (r : Except Fault (Edition × Library)) (s : LibrarySession) :
    Except Fault LibraryAnswer × LibrarySession :=
  match r with
  | .ok (edition, library) =>
    let (a, s) := { s with library }.showEdition edition
    (.ok a, s)
  | .error fault => (.error fault, s)

/-- Starts a render and reads its stream. -/
def read (start : Run Nat) (s : LibrarySession) : Except Fault LibraryAnswer × LibrarySession :=
  match s.loop.runAtOnce start with
  | (.ok stream, loop) =>
    let (r, loop) := loop.finish (.call stream (.readText "utf-8"))
    (.value <$> r, { s with loop })
  | (.error fault, loop) => (.error fault, { s with loop })

/-- Does something that does not wait. -/
def act {α : Type} (a : Act α) (s : LibrarySession) : Except Fault α × LibrarySession :=
  let (r, loop) := s.loop.withStore a.run
  (r, { s with loop })

/-- Renders the template of a name with data and reads its stream. -/
def readNamed (name : String) (args : List Value) (data : List (String × Value))
    (s : LibrarySession) : Except Fault LibraryAnswer × LibrarySession :=
  match s.library.get name none none with
  | .ok (edition, library) =>
    { s with library }.read (edition.template.render mainEngine true args data)
  | .error fault => (.error fault, s)

/-- Renders a template shown before with data and reads its stream. -/
def readShown (edition : Edition) (data : List (String × Recipe)) (s : LibrarySession) :
    Except Fault LibraryAnswer × LibrarySession :=
  s.read do
    let data ← Run.act (DataCall.renderText.build data)
    edition.template.render mainEngine true [] data

/-- Changes the library. -/
def change (f : Library → Library) (s : LibrarySession) :
    Except Fault LibraryAnswer × LibrarySession :=
  (.ok .nothing, { s with library := f s.library })

/-- Answers a request. -/
def answer (request : LibraryRequest) (s : LibrarySession) :
    Except Fault LibraryAnswer × LibrarySession :=
  match request with
  | .get name enableAsync defer => s.showResult (s.library.get name enableAsync defer)
  | .fromSource source name enableAsync defer =>
    s.showResult (s.library.fromSource source name enableAsync defer)
  | .render name args data =>
    match s.act do return (← buildAll args, ← DataCall.library.build data) with
    | (.ok (args, data), s) => s.readNamed name args data
    | (.error fault, s) => (.error fault, s)
  | .renderShown number data =>
    match s.shown[number]? with
    | some edition => s.readShown edition data
    | none => (.ok .nothing, s)
  | .names => (.ok (.names s.library.names), s)
  | .clear => s.change (·.clear)
  | .describe => (.ok (.text s.library.describe), s)
  | .source name => ((fun (source, filename) => .source source filename) <$>
      s.library.source name, s)
  | .setSource name source => s.change (·.setSource name source)
  | .eraseSource name => s.change (·.eraseSource name)
  | .setGlobal name value =>
    match s.act value.build with
    | (.ok v, s) => s.change (·.setGlobal name v)
    | (.error fault, s) => (.error fault, s)
  | .setDefaults enableAsync defer => s.change (·.setDefaults enableAsync defer)

/-- A session on a new library. -/
def start (loop : EventLoop) (loader : Option Loader) (options : RenderOptions)
    (globals : List (String × Recipe)) (capacity : Int) : Except Fault LibrarySession :=
  match loop.withStore (buildNamed globals).run with
  | (.error fault, _) => .error fault
  | (.ok globals, loop) =>
    let options := { options with globals := ({} : Scope).setAll globals }
    match Library.make loader options capacity with
    | .ok library => .ok { loop, library }
    | .error fault => .error fault

end LibrarySession

end StreamTemplate
