/-!
# Lines of a text

Three ways to see the lines of a text. `splitLines` ends a line at every Unicode line boundary and
knows no empty last line; `splitFeeds` separates at line feeds only; `unifyBreaks` turns carriage
returns, alone or before a line feed, into line feeds.
-/

namespace StreamTemplate.Text

/-- A character that ends a line on its own: line feed, vertical tab, form feed, carriage return,
the file, group and record separators, next line, line separator, paragraph separator. -/
def isLineBreak (c : Char) : Bool :=
  let n := c.toNat
  (0x0A ≤ n && n ≤ 0x0D) || (0x1C ≤ n && n ≤ 0x1E) || n == 0x85 || n == 0x2028 || n == 0x2029

/-- Puts a character at the front of the first line. -/
def consLine (c : Char) : List (List Char) → List (List Char)
  | [] => [[c]]
  | l :: ls => (c :: l) :: ls

/-- The lines of a text, each without the boundary that ends it; a carriage return and a line feed
are one boundary, and nothing follows the last boundary. -/
def splitLines : List Char → List (List Char)
  | [] => []
  | '\r' :: '\n' :: rest => [] :: splitLines rest
  | c :: rest => if isLineBreak c then [] :: splitLines rest else consLine c (splitLines rest)

/-- The texts between line feeds: always one more than there are line feeds. -/
def splitFeeds : List Char → List (List Char)
  | [] => [[]]
  | c :: rest => if c = '\n' then [] :: splitFeeds rest else consLine c (splitFeeds rest)

/-- The lines joined by line feeds. -/
def joinFeeds : List (List Char) → List Char
  | [] => []
  | [l] => l
  | l :: ls => l ++ '\n' :: joinFeeds ls

/-- The text with every carriage return, and every carriage return and line feed, written as one
line feed. -/
def unifyBreaks : List Char → List Char
  | [] => []
  | '\r' :: '\n' :: rest => '\n' :: unifyBreaks rest
  | c :: rest => (if c = '\r' then '\n' else c) :: unifyBreaks rest

/-- The text without one line break (`\r\n`, `\r` or `\n`) at its start. -/
def dropBreak : List Char → List Char
  | '\r' :: '\n' :: rest => rest
  | '\r' :: rest => rest
  | '\n' :: rest => rest
  | cs => cs

end StreamTemplate.Text
