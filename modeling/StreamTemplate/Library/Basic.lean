import StreamTemplate.Library.Cache
import StreamTemplate.Library.Loader
import StreamTemplate.Render.Template

/-!
# Libraries of templates

A library compiles templates with common options. Templates that it loads by name are kept, so that
each is compiled once for every way of running its body; templates made from a source are not kept.
-/

namespace StreamTemplate

/-- A template of a library, with a number of its own. -/
structure Edition where
  number : Nat
  template : Template

/-- What a loaded template is kept under: its name, whether its code may wait, and whether its body
starts later. -/
abbrev EditionKey := String × Bool × Bool

/-- A library of templates. -/
structure Library where
  loader : Option Loader
  options : RenderOptions
  cache : Cache EditionKey Edition
  /-- The number of templates made so far. -/
  made : Nat := 0

namespace Library

/-- A library with room for the given number of loaded templates. -/
def make (loader : Option Loader) (options : RenderOptions) (capacity : Int) :
    Except Fault Library :=
  if capacity < 0 then .error (.say .value s!"cache_size must be >= 0, got {capacity}")
  else .ok { loader, options, cache := { capacity := capacity.toNat } }

/-- The options of a template, for which the defaults can be overridden. -/
def optionsFor (l : Library) (enableAsync defer : Option Bool) : RenderOptions :=
  { l.options with
    enableAsync := enableAsync.getD l.options.enableAsync
    defer := defer.getD l.options.defer }

/-- Compiles a template. -/
def compile (l : Library) (source : String) (name filename : Option String)
    (options : RenderOptions) : Except Fault (Edition × Library) := do
  let template ← Template.make source name filename options
  return ({ number := l.made, template }, { l with made := l.made + 1 })

/-- Compiles a template from its source. -/
def fromSource (l : Library) (source : String) (name : Option String)
    (enableAsync defer : Option Bool) : Except Fault (Edition × Library) :=
  l.compile source name none (l.optionsFor enableAsync defer)

/-- Loads and compiles a template. -/
def load (l : Library) (name : String) (options : RenderOptions) :
    Except Fault (Edition × Library) :=
  match l.loader with
  | none => .error (notFound s!"Template '{name}' not found (no loader configured)")
  | some loader => do
    let (source, filename) ← loader.source name
    l.compile source name filename options

/-- The template of a name: the one that is kept, or else a new one. -/
def get (l : Library) (name : String) (enableAsync defer : Option Bool) :
    Except Fault (Edition × Library) :=
  let options := l.optionsFor enableAsync defer
  let key : EditionKey := (name, options.enableAsync, options.defer)
  match l.cache.find? key with
  | some edition => .ok (edition, { l with cache := l.cache.insert key edition })
  | none => do
    let (edition, l) ← l.load name options
    return (edition, { l with cache := l.cache.insert key edition })

/-- The source of a template as the loader gives it, and its file name if it has one. -/
def source (l : Library) (name : String) : Except Fault (String × Option String) :=
  match l.loader with
  | some loader => loader.source name
  | none => .error (ValueFault.noAttribute "NoneType" "get_source").toFault

/-- Stores a source with the loader. -/
def setSource (l : Library) (name source : String) : Library :=
  { l with loader := l.loader.map (·.store name source) }

/-- Takes a source away from the loader. -/
def eraseSource (l : Library) (name : String) : Library :=
  { l with loader := l.loader.map (·.erase name) }

/-- The names of all templates that the loader tells of. -/
def names (l : Library) : List String :=
  (l.loader.map (·.names)).getD []

/-- Forgets the templates that are kept. -/
def clear (l : Library) : Library :=
  { l with cache := l.cache.clear }

/-- Gives all templates made from now on a name to see. -/
def setGlobal (l : Library) (name : String) (v : Value) : Library :=
  { l with options := { l.options with globals := l.options.globals.set name v } }

/-- Sets how the bodies of templates run unless told otherwise. -/
def setDefaults (l : Library) (enableAsync defer : Bool) : Library :=
  { l with options := { l.options with enableAsync, defer } }

/-- A truth value in words. -/
def flagText (b : Bool) : String :=
  if b then "True" else "False"

/-- A library in words. -/
def describe (l : Library) : String :=
  let loader := (l.loader.map (·.label)).getD "None"
  s!"<Environment loader={loader} enable_async={flagText l.options.enableAsync} " ++
    s!"defer={flagText l.options.defer}>"

end Library

end StreamTemplate
