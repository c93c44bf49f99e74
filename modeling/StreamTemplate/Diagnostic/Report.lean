import StreamTemplate.Diagnostic.Code
import StreamTemplate.Diagnostic.Snippet

/-!
# Error reports

What is known about an error in a template, and its wording. A syntax report shows the offending
line with a caret; a render report shows the place, an excerpt, the failing tag and advice. Each has
a full form, which is the text of the error, and a compact form for terminals with a link to the
documentation. Parts that are absent, empty or zero are left out.
-/

namespace StreamTemplate.Diagnostic

/-- The first text that is there and not empty. -/
def firstGiven (candidates : List (Option String)) : Option String :=
  (candidates.filterMap id).find? (· ≠ "")

/-- A line number that is there and not zero. -/
def givenLine (line : Option Int) : Option Int :=
  line.filter (· ≠ 0)

/-- A place in a template: its name, and the line when it is known. -/
def locationText (name : Option String) (line : Option Int) : String :=
  name.getD "<template>" ++ ((givenLine line).map fun n => s!":{n}").getD ""

/-- The documentation row of a compact report. -/
def docsRow (palette : Palette) (code : Code) : String :=
  "  " ++ palette.dimText "Docs:" ++ " " ++ palette.docsUrl code.docsUrl

/-- The compact form of an error of which only the text is known. -/
def compactText (code : Option Code) (message : String) : String :=
  match code with
  | none => message
  | some code =>
    let parts := message.splitOn code.text
    let header := if parts.length > 1 then message else code.text ++ ": " ++ message
    header ++ "\n" ++ docsRow .plain code

/-- An error in the writing of a template. -/
structure SyntaxReport where
  message : String
  line : Option Int
  name : Option String
  filename : Option String
  source : Option String
  col : Option Int
  code : Code
  deriving DecidableEq, Repr

namespace SyntaxReport

/-- The name and line of the error. -/
def location (r : SyntaxReport) : String :=
  locationText (firstGiven [r.filename, r.name]) r.line

/-- The offending line with its number, and the caret below it. -/
def excerpt (r : SyntaxReport) : String :=
  match r.source, givenLine r.line with
  | some source, some line =>
    match if line > 0 then (sourceLines source)[line.toNat - 1]? else none with
    | none => ""
    | some content =>
      "\n   |\n" ++ Text.alignRight 3 (toString line) ++ " | " ++ content ++
        (r.col.map fun col => "\n   | " ++ caret col).getD ""
  | _, _ => ""

/-- The text of the error. -/
def text (r : SyntaxReport) : String :=
  let place := r.location ++ match givenLine r.line, r.col with
    | some _, some col => s!":{col}"
    | _, _ => ""
  "Syntax Error: " ++ r.message ++ "\n  --> " ++ place ++ r.excerpt

/-- The compact form of the error. -/
def compact (palette : Palette) (r : SyntaxReport) : String :=
  let excerpt := match r.source, givenLine r.line with
    | some source, some line =>
      if source = "" then [] else [(Snippet.ofSource source line 0 r.col).format palette]
    | _, _ => []
  "\n".intercalate ([r.code.text ++ ": " ++ r.message, "  --> " ++ r.location] ++ excerpt ++
    ["  Docs: " ++ r.code.docsUrl])

end SyntaxReport

/-- A failure while a template was rendered. -/
structure RenderReport where
  message : String
  expression : Option String
  name : Option String
  line : Option Int
  suggestion : Option String
  snippet : Option Snippet
  code : Code
  deriving DecidableEq, Repr

namespace RenderReport

/-- The name and line of the failure. -/
def location (r : RenderReport) : String :=
  locationText (firstGiven [r.name]) r.line

/-- The location row. -/
def locationRow (palette : Palette) (r : RenderReport) : String :=
  "  Location: " ++ palette.location r.location

/-- The rows between location and advice. -/
def middleRows (palette : Palette) (r : RenderReport) : List String :=
  r.snippet.toList.map (·.format palette) ++
    (firstGiven [r.expression]).toList.map ("  Expression: " ++ ·)

/-- The text of the failure. -/
def text (palette : Palette) (r : RenderReport) : String :=
  let place := if (firstGiven [r.name]).isSome || (givenLine r.line).isSome then
    [r.locationRow palette] else []
  let advice := (firstGiven [r.suggestion]).toList.map
    ("\n  " ++ palette.hint "Suggestion:" ++ " " ++ ·)
  "\n".intercalate
    (["Runtime Error: " ++ r.message] ++ place ++ r.middleRows palette ++ advice)

/-- The compact form of the failure. -/
def compact (palette : Palette) (r : RenderReport) : String :=
  let advice := (firstGiven [r.suggestion]).toList.map
    ("  " ++ palette.hint "Hint:" ++ " " ++ ·)
  "\n".intercalate ([palette.errorHeader r.code.text r.message, r.locationRow palette] ++
    r.middleRows palette ++ advice ++ [docsRow palette r.code])

end RenderReport

end StreamTemplate.Diagnostic
