import StreamTemplate.Markup.Token
import StreamTemplate.Markup.Trim

/-!
# Splitting a template into tokens

One pass from left to right. At each place the longest delimiter that starts there is taken; the
characters between delimiters form one text token. The white space of trimming tags is removed
first, but every character keeps its place in the template as written, so a token's line and column
point into that.
-/

namespace StreamTemplate.Markup

/-- A character of a template with its place: line from one, column from zero. -/
structure Placed where
  char : Char
  line : Nat
  col : Nat
  deriving DecidableEq, Repr

/-- The characters with their places, the first one at the given place. A line ends with a line
feed. -/
def place (line col : Nat) : List Char → List Placed
  | [] => []
  | c :: rest =>
    ⟨c, line, col⟩ :: if c = '\n' then place (line + 1) 0 rest else place line (col + 1) rest

/-- The longest delimiter that the characters begin with. -/
def delimiterAt : List Char → Option TokenKind
  | '<' :: '%' :: '%' :: _ => some .openLiteral
  | '<' :: '%' :: '=' :: _ => some .openEscaped
  | '<' :: '%' :: '-' :: _ => some .openRaw
  | '<' :: '%' :: '_' :: _ => some .openEvalTrim
  | '<' :: '%' :: '#' :: _ => some .openComment
  | '<' :: '%' :: _ => some .openEval
  | '%' :: '%' :: '>' :: _ => some .closeLiteral
  | '%' :: '>' :: _ => some .close
  | '-' :: '%' :: '>' :: _ => some .closeTrimBreak
  | '_' :: '%' :: '>' :: _ => some .closeTrimBlanks
  | _ => none

/-- The text token of the characters held back, the last of them first; nothing if there are
none. -/
def textToken (held : List Placed) : List Token :=
  match held.getLast? with
  | none => []
  | some first => [⟨.text, String.ofList (held.reverse.map (·.char)), first.line, first.col⟩]

/-- The tokens of the characters, after `skip` of them that belong to a delimiter already taken.
`held` holds the text since that delimiter, the last character first. -/
def scan (skip : Nat) (held : List Placed) : List Placed → List Token
  | [] => textToken held
  | p :: rest =>
    match skip with
    | skip + 1 => scan skip held rest
    | 0 =>
      match delimiterAt (((p :: rest).take 3).map (·.char)) with
      | some kind =>
        textToken held ++
          ⟨kind, kind.delimiter, p.line, p.col⟩ :: scan (kind.delimiter.length - 1) [] rest
      | none => scan 0 (p :: held) rest

/-- The tokens of a template. -/
def tokenize (source : String) : List Token :=
  scan 0 [] (trimTags (·.char) (place 1 0 source.toList))

/-- The first open delimiter that is not closed right after its body, that is, two tokens later. -/
def firstUnclosed? : List Token → Option Token
  | [] => none
  | t :: rest =>
    if t.kind.isOpen && !(rest[1]?.any fun next => next.kind.isClose) then some t
    else firstUnclosed? rest

end StreamTemplate.Markup
