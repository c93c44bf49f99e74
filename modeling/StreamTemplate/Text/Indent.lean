import StreamTemplate.Text.Blank
import StreamTemplate.Text.Lines

/-!
# Common indentation

`dedent` removes the indentation that all lines of a text share. Lines are separated by line feeds
only; a line of nothing but spaces and tabs becomes empty and does not count.
-/

namespace StreamTemplate.Text

/-- A line of spaces and tabs as the empty line, any other line as it is. -/
def emptyIfBlank (line : List Char) : List Char :=
  if line.all isHorizontal then [] else line

/-- The indentation shared by all lines that are not empty; `none` when every line is empty. -/
def sharedIndent (lines : List (List Char)) : Option (List Char) :=
  (lines.filter (· ≠ [])).foldl (fun shared line =>
    let indent := line.takeWhile isHorizontal
    some (shared.elim indent (commonStart · indent))) none

/-- The text without the indentation its lines share. -/
def dedent (s : String) : String :=
  let lines := (splitFeeds s.toList).map emptyIfBlank
  let width := ((sharedIndent lines).getD []).length
  String.ofList (joinFeeds (lines.map (·.drop width)))

end StreamTemplate.Text
