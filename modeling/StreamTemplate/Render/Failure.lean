import StreamTemplate.Render.Context
import StreamTemplate.Value.Show

/-!
# Faults with their place in the template

A fault raised inside a tag is reported with the template, the line and the tag it was raised in. A
fault that is about a template already is passed on as it is.
-/

namespace StreamTemplate

open Diagnostic

/-- The wording of a fault in a report: its text behind the name of its class, where the text does
not speak for itself. -/
def reportedMessage (fault : Fault) (text : String) : String :=
  let text := Text.trim text
  if text = "" then s!"{fault.cls.label} (no details available)"
  else if fault.isA .name || fault.isA .noAttribute || fault.isA .key then text
  else s!"{fault.cls.label}: {text}"

/-- Advice on a fault: a name without a value has to be given one. -/
def reportedAdvice (fault : Fault) : Option String :=
  let missing := match fault with
    | .unbound name => if name = "" then "it" else name
    | _ => "it"
  if fault.isA .name then
    some s!"Pass '{missing}' in the render data, or assign it in an earlier <% %> tag"
  else none

/-- The report of a fault raised while the given tag was executed. -/
def RenderContext.report (c : RenderContext) (tag : Option String) (fault : Fault)
    (text : String) : RenderReport where
  message := reportedMessage fault text
  expression := tag
  name := firstGiven [c.filename] <|> c.name
  line := givenLine (some c.line)
  suggestion := reportedAdvice fault
  snippet := match c.source, givenLine (some c.line) with
    | some source, some line =>
      if source = "" then none else some (Snippet.ofSource source line 2 none)
    | _, _ => none
  code := .runtimeError

/-- A fault as the stream of its render reports it. Getting its text may itself fail. -/
def RenderContext.explain (c : RenderContext) (heap : Heap) (palette : Palette)
    (tag : Option String) (fault : Fault) : Except Fault Fault :=
  if fault.isA .template then .ok fault
  else do
    let text ← heap.faultText palette fault
    return .render (c.report tag fault text) none (some fault)

end StreamTemplate
