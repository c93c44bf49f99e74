import StreamTemplate.Diagnostic.Palette
import StreamTemplate.Text.Lines

/-!
# Source excerpts

The lines of a template around an error, each with its number, and a caret below them when the
column is known.
-/

namespace StreamTemplate.Diagnostic

/-- Numbered lines around the line of an error, and the column of a caret. -/
structure Snippet where
  lines : List (Int × String)
  errorLine : Int
  column : Option Int
  deriving DecidableEq, Repr

/-- The lines of a source text. -/
def sourceLines (source : String) : List String :=
  (Text.splitLines source.toList).map String.ofList

/-- A caret under the given column. -/
def caret (column : Int) : String :=
  Text.replicate column.toNat ' ' ++ "^"

namespace Snippet

/-- Cuts the lines from `context` before the error line to `context` after it out of a source. -/
def ofSource (source : String) (errorLine : Int) (context : Int) (column : Option Int) :
    Snippet where
  lines := (sourceLines source).zipIdx.filterMap fun (line, i) =>
    let index : Int := i
    if errorLine - 1 - context ≤ index ∧ index < errorLine + context then some (index + 1, line)
    else none
  errorLine
  column

/-- The excerpt as text: a bar, the lines, the caret, a bar. -/
def format (palette : Palette) (s : Snippet) : String :=
  let bar := palette.dimText "   |"
  let rows := s.lines.map fun (number, content) =>
    palette.sourceLine number content (number = s.errorLine)
  let pointer := s.column.toList.map fun column => bar ++ " " ++ palette.errorLine (caret column)
  "\n".intercalate (bar :: rows ++ pointer ++ [bar])

end Snippet

end StreamTemplate.Diagnostic
