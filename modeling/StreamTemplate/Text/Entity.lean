/-!
# Characters with a meaning in HTML

Five characters mean something in HTML text or attributes. Escaping writes each of them as a
character entity and leaves all others alone.
-/

namespace StreamTemplate.Text

/-- The entity of a character that has a meaning in HTML. -/
def entity? (c : Char) : Option (List Char) :=
  if c == '&' then some "&amp;".toList
  else if c == '<' then some "&lt;".toList
  else if c == '>' then some "&gt;".toList
  else if c == '\x22' then some "&#34;".toList
  else if c == '\x27' then some "&#39;".toList
  else none

/-- The characters with each one that has a meaning in HTML written as its entity. -/
def escapeChars (cs : List Char) : List Char :=
  cs.flatMap fun c => (entity? c).getD [c]

/-- The text made safe for HTML text and attributes; a text with nothing to escape is returned as
it is. -/
def escapeHtml (s : String) : String :=
  if s.toList.all (fun c => (entity? c).isNone) then s else String.ofList (escapeChars s.toList)

end StreamTemplate.Text
