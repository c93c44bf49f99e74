import StreamTemplate.Diagnostic.Report

/-!
# Render contexts

What the code inside a tag can know about the render it belongs to: the template, and the line of
the instruction being executed.
-/

namespace StreamTemplate

/-- What is known about a render. The line is zero before the first instruction. -/
structure RenderContext where
  name : Option String := none
  filename : Option String := none
  source : Option String := none
  line : Int := 0
  deriving DecidableEq, Repr

/-- Where a render is: the file or the name of its template, and the line. -/
def RenderContext.location (c : RenderContext) : String :=
  Diagnostic.locationText (Diagnostic.firstGiven [c.filename, c.name]) (some c.line)

end StreamTemplate
