import StreamTemplate.Text.Quoted

/-!
# Template tokens

A template is text interrupted by tags. A tag begins with an open delimiter, holds code or a
comment, and ends with a close delimiter; two further delimiters stand for the characters of a
delimiter itself.
-/

namespace StreamTemplate.Markup

/-- The delimiters, and the text between them. -/
inductive TokenKind where
  | text
  | openEval
  | openEvalTrim
  | openEscaped
  | openRaw
  | openComment
  | openLiteral
  | close
  | closeTrimBreak
  | closeTrimBlanks
  | closeLiteral
  deriving DecidableEq, Repr

namespace TokenKind

/-- Every kind of token, text first, then the open and the close delimiters. -/
def all : List TokenKind :=
  [text, openEval, openEvalTrim, openEscaped, openRaw, openComment, openLiteral, close,
    closeTrimBreak, closeTrimBlanks, closeLiteral]

/-- How a delimiter is written; text has no delimiter. -/
def delimiter : TokenKind → String
  | text => ""
  | openEval => "<%"
  | openEvalTrim => "<%_"
  | openEscaped => "<%="
  | openRaw => "<%-"
  | openComment => "<%#"
  | openLiteral => "<%%"
  | close => "%>"
  | closeTrimBreak => "-%>"
  | closeTrimBlanks => "_%>"
  | closeLiteral => "%%>"

/-- The name of a kind in token listings. -/
def label : TokenKind → String
  | text => "TEXT"
  | openEval => "OPEN_EVAL"
  | openEvalTrim => "OPEN_EVAL_TRIM"
  | openEscaped => "OPEN_ESCAPED"
  | openRaw => "OPEN_RAW"
  | openComment => "OPEN_COMMENT"
  | openLiteral => "OPEN_LITERAL"
  | close => "CLOSE"
  | closeTrimBreak => "CLOSE_TRIM_NEWLINE"
  | closeTrimBlanks => "CLOSE_TRIM_WHITESPACE"
  | closeLiteral => "CLOSE_LITERAL"

/-- The delimiters that open a tag. -/
def isOpen : TokenKind → Bool
  | openEval | openEvalTrim | openEscaped | openRaw | openComment => true
  | _ => false

/-- The delimiters that close a tag. -/
def isClose : TokenKind → Bool
  | close | closeTrimBreak | closeTrimBlanks => true
  | _ => false

/-- The close delimiters that swallow one line break behind them. -/
def trimsBreak : TokenKind → Bool
  | closeTrimBreak | closeTrimBlanks => true
  | _ => false

end TokenKind

/-- A delimiter or a run of text, with the place of its first character: the line counts from one,
the column from zero. -/
structure Token where
  kind : TokenKind
  value : String
  line : Nat
  col : Nat
  deriving DecidableEq, Repr

/-- The token as shown in listings. -/
def Token.describe (t : Token) : String :=
  s!"Token({t.kind.label}, {Text.quoted t.value}, {t.line}:{t.col})"

end StreamTemplate.Markup
