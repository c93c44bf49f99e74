/-!
# Error codes

Every error of the engine can be looked up by a code: `S`, the stage that found it, and a number.
-/

namespace StreamTemplate.Diagnostic

/-- The errors that have a code of their own. -/
inductive Code where
  | unclosedTag
  | strayCloseTag
  | invalidExpression
  | unclosedBlock
  | unexpectedBlock
  | asyncUnsupported
  | runtimeError
  | noEventLoop
  | templateNotFound
  | syntaxError
  deriving DecidableEq, Repr

namespace Code

/-- Every code, by stage. -/
def all : List Code :=
  [unclosedTag, strayCloseTag, invalidExpression, unclosedBlock, unexpectedBlock,
    asyncUnsupported, runtimeError, noEventLoop, templateNotFound, syntaxError]

/-- The name of a code in listings. -/
def label : Code → String
  | unclosedTag => "UNCLOSED_TAG"
  | strayCloseTag => "STRAY_CLOSE_TAG"
  | invalidExpression => "INVALID_EXPRESSION"
  | unclosedBlock => "UNCLOSED_BLOCK"
  | unexpectedBlock => "UNEXPECTED_BLOCK"
  | asyncUnsupported => "ASYNC_UNSUPPORTED"
  | runtimeError => "RUNTIME_ERROR"
  | noEventLoop => "NO_EVENT_LOOP"
  | templateNotFound => "TEMPLATE_NOT_FOUND"
  | syntaxError => "SYNTAX_ERROR"

/-- The stage that finds the error: how its code writes it, and its name. -/
def stage : Code → String × String
  | unclosedTag | strayCloseTag => ("LEX", "lexer")
  | invalidExpression | unclosedBlock | unexpectedBlock | asyncUnsupported => ("PAR", "compiler")
  | runtimeError | noEventLoop => ("RUN", "runtime")
  | templateNotFound | syntaxError => ("TPL", "template")

/-- The number of the code within its stage. -/
def number : Code → String
  | unclosedTag | invalidExpression | runtimeError | templateNotFound => "001"
  | strayCloseTag | unclosedBlock | noEventLoop | syntaxError => "002"
  | unexpectedBlock => "003"
  | asyncUnsupported => "004"

/-- The code as it is written. -/
def text (c : Code) : String :=
  "S-" ++ c.stage.1 ++ "-" ++ c.number

/-- The name of the stage that finds the error. -/
def category (c : Code) : String :=
  c.stage.2

/-- Where the error is documented. -/
def docsUrl (c : Code) : String :=
  "https://strand.readthedocs.io/en/latest/errors/#" ++ c.text.toLower

/-- The code written in the given way. -/
def ofText? (s : String) : Option Code :=
  all.find? (·.text == s)

end Code

end StreamTemplate.Diagnostic
