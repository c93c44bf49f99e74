import StreamTemplate.Text.Lines

/-!
# Paths

A path is a row of steps through folders, from a root or from wherever one is. Empty steps and steps
to the same folder are left out; steps to the parent folder are kept, since what they lead to is a
matter of the folders that are there.
-/

namespace StreamTemplate

/-- A path: how it begins, if it does not begin wherever one is, and its steps. -/
structure Path where
  root : String
  parts : List String
  deriving DecidableEq, Repr

namespace Path

/-- The step to the parent folder. -/
def parentStep : String :=
  ".."

/-- The texts between slashes. -/
def segments : List Char → List (List Char)
  | [] => [[]]
  | c :: rest => if c = '/' then [] :: segments rest else Text.consLine c (segments rest)

/-- The root with which a text begins: two slashes are a root of their own, any other number of
slashes is one. -/
def rootOf : List Char → String
  | '/' :: '/' :: '/' :: _ => "/"
  | '/' :: '/' :: _ => "//"
  | '/' :: _ => "/"
  | _ => ""

/-- The path written as a text. -/
def ofText (s : String) : Path where
  root := rootOf s.toList
  parts := ((segments s.toList).map String.ofList).filter fun part => part ≠ "" && part ≠ "."

/-- A path as a text. -/
def toText (p : Path) : String :=
  if p.root = "" && p.parts.isEmpty then "." else p.root ++ "/".intercalate p.parts

/-- A path followed by another one; a path with a root stands alone. -/
def join (base p : Path) : Path :=
  if p.root = "" then { base with parts := base.parts ++ p.parts } else p

/-- What follows the last full stop in a name, with the full stop; nothing if that stands at either
end. -/
def suffixOf (name : String) : String :=
  let tail := name.toList.reverse.takeWhile (· ≠ '.')
  let size := tail.length
  if 0 < size ∧ size + 1 < name.length then "." ++ String.ofList tail.reverse else ""

end Path

end StreamTemplate
