import StreamTemplate.Library.Path

/-!
# Folders of files

A tree of folders, given by its files and by folders that may be empty. A path is followed step by
step; each step but the last has to lead to a folder. The root is its own parent; no step leads out of
a tree that does not begin at the root.
-/

namespace StreamTemplate

/-- A tree of folders: files with what they hold, and folders. Both are known by the steps that lead
to them. -/
structure Folder where
  files : List (List String × List UInt8)
  folders : List (List String)
  /-- The steps from the root to where one is, in a tree that begins at the root; any other tree
  begins where one is. -/
  here : Option (List String) := none

namespace Folder

/-- Whether there is a folder at a place. -/
def hasFolder (f : Folder) (place : List String) : Bool :=
  place.isEmpty || f.folders.any (place.isPrefixOf ·) ||
    f.files.any fun (file, _) => place.isPrefixOf file && place ≠ file

/-- Where steps lead to from a place; nothing if one of them leads nowhere. -/
def follow (f : Folder) (place : List String) : List String → Option (List String)
  | [] => some place
  | step :: rest =>
    if !f.hasFolder place then none
    else if step = Path.parentStep then
      if place.isEmpty && f.here.isNone then none else f.follow place.dropLast rest
    else f.follow (place ++ [step]) rest

/-- Where a path begins. Of a tree that does not begin at the root, nothing is known of paths with a
root. -/
def start? (f : Folder) (p : Path) : Option (List String) :=
  if p.root = "" then some (f.here.getD []) else f.here.map fun _ => []

/-- Where a path leads to. -/
def place? (f : Folder) (p : Path) : Option (List String) := do
  f.follow (← f.start? p) p.parts

/-- What the file at a path holds. -/
def file? (f : Folder) (p : Path) : Option (List UInt8) := do
  let place ← f.place? p
  let (_, data) ← f.files.reverse.find? (·.1 = place)
  return data

/-- The steps to the files in the folder at a path and in the folders inside it. -/
def filesUnder (f : Folder) (p : Path) : List (List String) :=
  match f.place? p with
  | none => []
  | some place =>
    if !f.hasFolder place then []
    else f.files.filterMap fun (file, _) =>
      if place.isPrefixOf file then some (file.drop place.length) else none

end Folder

end StreamTemplate
