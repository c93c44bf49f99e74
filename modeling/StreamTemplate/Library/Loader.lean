import StreamTemplate.Library.Folder
import StreamTemplate.Text.Similarity
import StreamTemplate.Value.Heap

/-!
# Loaders

Where templates come from: a mapping of names to sources, a plain store of them, folders that are
searched in order, or anything else that answers for a name. A mapping that has no template of a name
suggests the name most like it.
-/

namespace StreamTemplate

/-- Where templates come from. -/
inductive Loader where
  | mapping (templates : List (String × String))
  /-- A store that can be asked for a template, but not for all of them. -/
  | plain (templates : List (String × String))
  | folders (paths : List Path) (encoding : String) (tree : Folder)
  /-- An object of any other kind, with its answers and the names that it lists. -/
  | custom (label : String) (answer : String → Except Fault (String × Option String))
      (listed : List String)

/-- Templates by name; of several with one name the last one counts. -/
def Loader.ofTemplates (templates : List (String × String)) : Loader :=
  .mapping (uniteNamed templates)

/-- A plain store of templates; of several with one name the last one counts. -/
def Loader.ofStore (templates : List (String × String)) : Loader :=
  .plain (uniteNamed templates)

/-- The fault of a template that is not there. -/
def notFound (message : String) : Fault :=
  .say .templateNotFound message

/-- The names in order, each once. -/
def sortedNames (names : List String) : List String :=
  (names.mergeSort Text.textLe).eraseDups

/-- The wording of a template that is not there among the ones that are. -/
def notFoundMessage (name : String) (available : List String) : String :=
  let start := s!"Template '{name}' not found"
  match Text.closest? name available with
  | some other => start ++ s!". Did you mean '{other}'?"
  | none =>
    if available.isEmpty then start
    else
      let shown := ", ".intercalate (available.take 10)
      let total := if available.length > 10 then s!" ... ({available.length} total)" else ""
      start ++ s!". Available: {shown}{total}"

/-- The file name suffixes of templates. -/
def templateSuffixes : List String :=
  [".ejs", ".html", ".txt", ".xml"]

namespace Loader

/-- The name of a kind of loader. -/
def label : Loader → String
  | mapping _ => "DictLoader"
  | plain _ => "PlainLoader"
  | folders .. => "FileSystemLoader"
  | custom label .. => label

/-- The text of a file, with every line break written as a line feed. -/
def fileText (encoding : String) (data : List UInt8) : Except Fault String :=
  match Text.Encoding.ofName? encoding with
  | none => .error (codecFault (.unknownEncoding encoding))
  | some e =>
    match e.decode data with
    | .ok s => .ok (String.ofList (Text.unifyBreaks s.toList))
    | .error fault => .error (codecFault fault)

/-- The path and the content of the first file that a name leads to from the given folders. -/
def search (tree : Folder) (name : String) : List Path → Option (Path × List UInt8)
  | [] => none
  | base :: rest =>
    let path := base.join (.ofText name)
    match tree.file? path with
    | some data => some (path, data)
    | none => search tree name rest

/-- The source of a template, and its file name if it has one. -/
def source (l : Loader) (name : String) : Except Fault (String × Option String) :=
  match l with
  | mapping templates =>
    match templates.lookup name with
    | some source => .ok (source, none)
    | none => .error (notFound (notFoundMessage name (sortedNames (templates.map (·.1)))))
  | plain templates =>
    match templates.lookup name with
    | some source => .ok (source, some s!"db://{name}")
    | none => .error (notFound s!"Template '{name}' not found")
  | folders paths encoding tree =>
    match search tree name paths with
    | some (path, data) => do return (← fileText encoding data, some path.toText)
    | none =>
      let searched := ", ".intercalate (paths.map (·.toText))
      .error (notFound s!"Template '{name}' not found in: {searched}")
  | custom _ answer _ => answer name

/-- The names of all templates, in order; a plain store does not tell. -/
def names : Loader → List String
  | mapping templates => sortedNames (templates.map (·.1))
  | plain _ => []
  | folders paths _ tree =>
    let files := paths.flatMap (tree.filesUnder ·)
    let templates := files.filter fun file =>
      templateSuffixes.contains (Path.suffixOf (file.getLast?.getD ""))
    sortedNames (templates.map ("/".intercalate ·))
  | custom _ _ listed => listed

/-- Stores the source of a template. -/
def store (l : Loader) (name source : String) : Loader :=
  match l with
  | mapping templates => mapping (putNamed name source templates)
  | plain templates => plain (putNamed name source templates)
  | l => l

/-- Takes a template away. -/
def erase (l : Loader) (name : String) : Loader :=
  match l with
  | mapping templates => mapping (templates.filter (·.1 ≠ name))
  | plain templates => plain (templates.filter (·.1 ≠ name))
  | l => l

end Loader

end StreamTemplate
