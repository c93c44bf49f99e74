import StreamTemplate.Tag.Check

/-!
# Reading the code of tags

What a template needs to know of the language inside its tags: how an output tag's expression, a
statement tag's statements and a block header are read. `Language` states it for any type of code,
and `language` is the language of this library.
-/

namespace StreamTemplate.Tag

/-- The header of a block. Reading the header has succeeded, but its condition or iterable may still
use a construct out of place; so may the target of a loop. -/
inductive Header (κ : Type) where
  | ifDo (test : Except CodeFault κ)
  | whileDo (test : Except CodeFault κ)
  | forIn (isAsync : Bool) (target iter : Except CodeFault κ)

/-- A language for the code inside tags, with code of type `κ`. Each reader is told whether the code
may wait. -/
structure Language (κ : Type) where
  /-- Reads the expression of an output tag. -/
  expression : Bool → String → Except CodeFault κ
  /-- Reads the statements of a statement tag. -/
  statements : Bool → String → Except CodeFault κ
  /-- Reads a block header that begins with the given keyword; nothing if the text is no header,
  in which case it may still be a complete statement. -/
  header : Bool → String → String → Option (Header κ)

/-- Reads an expression and checks it. -/
def compileExpression (mayAwait : Bool) (text : String) : Except CodeFault Code := do
  let e ← readExpression text
  e.check mayAwait
  return .expression e

/-- Reads statements and checks them. -/
def compileStatements (mayAwait : Bool) (text : String) : Except CodeFault Code := do
  let body ← readStatements text
  checkBody mayAwait false body
  return .statements body

/-- An expression checked on its own. -/
def compilePart (mayAwait : Bool) (e : Expr) : Except CodeFault Code := do
  e.check mayAwait
  return .expression e

/-- A loop target checked on its own. -/
def compileTarget (e : Expr) : Except CodeFault Code := do
  e.checkLoopTarget
  return .target e

/-- Whether a body is the one empty statement that completes a header. -/
def isPlaceholder : List Stmt → Bool
  | [.pass] => true
  | _ => false

/-- A header is a text that becomes one complete statement when an indented empty statement is put
below it. -/
def readHeader (mayAwait : Bool) (keyword text : String) : Option (Header Code) :=
  match readStatements (text ++ "\n    pass") with
  | .ok [.ifElse test body []] =>
    if isPlaceholder body && keyword == "if" then some (.ifDo (compilePart mayAwait test))
    else none
  | .ok [.whileDo test body []] =>
    if isPlaceholder body && keyword == "while" then some (.whileDo (compilePart mayAwait test))
    else none
  | .ok [.forIn isAsync target iter body [] _] =>
    if isPlaceholder body && keyword == (if isAsync then "async" else "for") then
      some (.forIn isAsync (compileTarget target) (compilePart mayAwait iter))
    else none
  | _ => none

/-- The language of this library. -/
def language : Language Code where
  expression := compileExpression
  statements := compileStatements
  header := readHeader

end StreamTemplate.Tag
