import StreamTemplate.Diagnostic.Report
import StreamTemplate.Markup.Lexer
import StreamTemplate.Program.Block
import StreamTemplate.Tag.Language
import StreamTemplate.Text.Identifier
import StreamTemplate.Text.Indent

/-!
# Compiling a template

The tokens of a template are read once. A mode, set by the last delimiter, says what the next text
is: output, an expression, statements, or a comment. A close delimiter that trims makes the next
output text lose one line break at its start. The instructions are then nested into blocks.
-/

namespace StreamTemplate.Program

open Diagnostic Markup Tag Text

/-! ### The text of a tag -/

/-- The text without its last semicolon, if only white space follows it. -/
def stripSemicolon (s : String) : String :=
  let reversed := s.toList.reverse
  let blanks := reversed.takeWhile isBlank
  match reversed.drop blanks.length with
  | ';' :: rest => String.ofList (rest.reverse ++ blanks.reverse)
  | _ => s

/-- The text with a line feed at its end if its last line holds a comment sign, so that a comment
ends with its line. -/
def endComment (s : String) : String :=
  if ((splitFeeds s.toList).getLast?.getD []).contains '#' then s ++ "\n" else s

/-- The code of a statement tag: without the indentation its lines share, and without white space
around it. -/
def statementText (s : String) : String :=
  trim (dedent s)

/-- Whether the text ends a block. -/
def isEnd (text : String) : Bool :=
  text ∈ ["end", "endif", "endfor", "endwhile"]

/-- Whether the text is an `else` with its colon, perhaps followed by a comment on one line. -/
def isElse (text : String) : Bool :=
  match text.toList with
  | 'e' :: 'l' :: 's' :: 'e' :: rest =>
    match trimStart rest with
    | ':' :: rest =>
      match trimStart rest with
      | [] => true
      | c :: rest => c == '#' && !rest.contains '\n'
    | _ => false
  | _ => false

/-- Whether a word ends in front of the characters. -/
def endsWord (rest : List Char) : Bool :=
  !(rest.head?.any isIdentifierRest)

/-- What follows the word at the front of the characters. -/
def afterWord? (word : String) (cs : List Char) : Option (List Char) :=
  if word.toList.isPrefixOf cs && endsWord (cs.drop word.length) then some (cs.drop word.length)
  else none

/-- The keyword that a block header begins with: `async` only in front of a `for`. -/
def headerKeyword? (text : String) : Option String :=
  let cs := text.toList
  match ["if", "elif", "for", "while"].find? fun word => (afterWord? word cs).isSome with
  | some word => some word
  | none =>
    match afterWord? "async" cs with
    | some rest =>
      if rest.head?.any isBlank && (afterWord? "for" (trimStart rest)).isSome then some "async"
      else none
    | none => none

/-! ### Faults -/

/-- Why a template does not compile, apart from the place. -/
inductive Cause where
  | unclosedTag (opener : String)
  | strayClose (closer : String)
  | block (fault : BlockFault)
  | asyncFor
  | code (fault : CodeFault) (mayAwait : Bool)

namespace Cause

/-- The wording of a cause. -/
def message : Cause → String
  | unclosedTag opener => s!"Could not find matching close tag for \"{opener}\"."
  | strayClose closer =>
    s!"Unexpected close tag \"{closer}\" with no open tag (write \"%%>\" for a literal \"%>\")"
  | block fault => fault.message
  | asyncFor => "'async for' requires an async template (enable_async=True)"
  | code fault mayAwait =>
    let advice := if !mayAwait && (fault.message.splitOn "await").length > 1 then
      "; compile the template with enable_async=True to use 'await'" else ""
    "Invalid Python in tag: " ++ fault.message ++ advice

/-- The code under which a cause is documented. -/
def errorCode : Cause → Diagnostic.Code
  | unclosedTag _ => .unclosedTag
  | strayClose _ => .strayCloseTag
  | block (.unclosed _) => .unclosedBlock
  | block _ => .unexpectedBlock
  | asyncFor | code .. => .invalidExpression

/-- How many lines below the tag's text the cause lies. -/
def lineOffset : Cause → Nat
  | code fault _ => fault.line.getD 1 - 1
  | _ => 0

end Cause

/-- What a template is compiled with: the name and file that diagnostics mention, and whether its
code may wait. -/
structure Options where
  name : Option String := none
  filename : Option String := none
  enableAsync : Bool := false
  deriving DecidableEq, Repr

/-- What diagnostics call the template: its file, else its name. -/
def Options.title (o : Options) : String :=
  (firstGiven [o.filename, o.name]).getD "<template>"

/-- A failed compilation. -/
inductive CompileFault where
  /-- The template is at fault. -/
  | template (report : SyntaxReport)
  /-- Code of a block header is refused and no report is made of it; `file` is where the code is said
  to be. -/
  | header (fault : CodeFault) (file : String)

/-- The report of a cause at a place. -/
def report (o : Options) (source : String) (site : Site) (cause : Cause) : CompileFault :=
  .template
    { message := cause.message
      line := some (site.line + cause.lineOffset)
      name := o.name
      filename := o.filename
      source := some source
      col := if cause.lineOffset = 0 then some site.col else none
      code := cause.errorCode }

/-- The last part of a path. -/
def baseName (path : String) : String :=
  (path.splitOn "/").getLast?.getD path

/-! ### Modes -/

/-- How the next text token is treated. -/
inductive Mode where
  | outside
  | eval
  | escaped
  | raw
  | comment
  | literal
  deriving DecidableEq, Repr

/-- The mode that an open delimiter sets. -/
def Mode.ofOpen : TokenKind → Mode
  | .openEscaped => .escaped
  | .openRaw => .raw
  | .openComment => .comment
  | _ => .eval

/-- What the tokens read so far have led to. -/
structure ScanState (κ : Type) where
  mode : Mode := .outside
  /-- The delimiter that opened the current tag. -/
  opener : Option String := none
  /-- Whether the next output text loses a line break at its start. -/
  trimming : Bool := false
  /-- The instructions, the last one first. -/
  program : List (Instruction κ) := []

namespace ScanState

variable {κ : Type}

/-- Adds an instruction. -/
def emit (s : ScanState κ) (i : Instruction κ) : ScanState κ :=
  { s with program := i :: s.program }

/-- Adds output text, unless nothing is left of it. -/
def output (s : ScanState κ) (site : Site) (text : String) : ScanState κ :=
  let kept := if s.trimming then String.ofList (dropBreak text.toList) else text
  let s := { s with trimming := false }
  if kept = "" then s else s.emit (.literal site kept)

/-- The whole tag around a body. -/
def tagText (s : ScanState κ) (body : String) : String :=
  s.opener.getD "<%" ++ body ++ "%>"

end ScanState

section Scan

variable {κ : Type} (language : Tag.Language κ) (o : Options) (source : String)

/-- Names the place at which code cannot be read. -/
def located {α : Type} (site : Site) : Except CodeFault α → Except CompileFault α
  | .ok a => .ok a
  | .error fault => .error (report o source site (.code fault o.enableAsync))

/-- Adds the instruction of an output tag; an empty one outputs nothing. -/
def addExpression (s : ScanState κ) (site : Site) (body : String) (escaped : Bool) :
    Except CompileFault (ScanState κ) := do
  let text := trim (stripSemicolon body)
  if text = "" then return s
  let code ← located o source site (language.expression o.enableAsync (endComment text))
  return s.emit (.output site escaped text code (s.tagText body))

/-- Names the place at which the condition or the iterable of a header cannot be read, unless it is
refused as a value. -/
def locatedPart {α : Type} (site : Site) : Except CodeFault α → Except CompileFault α
  | .ok a => .ok a
  | .error fault =>
    if fault.ofValue then .error (.header fault (baseName o.title))
    else .error (report o source site (.code fault o.enableAsync))

/-- The statement of a block header. Nothing makes a report of a target that is refused. -/
def headerStatement (site : Site) (isElif : Bool) :
    Header κ → Except CompileFault (Statement κ)
  | .ifDo test => do
    let test ← locatedPart o source site test
    return if isElif then .elifDo test else .ifDo test
  | .whileDo test => return .whileDo (← locatedPart o source site test)
  | .forIn isAsync target iter => do
    if isAsync && !o.enableAsync then throw (report o source site .asyncFor)
    let target ← match target with
      | .ok code => pure code
      | .error fault => throw (.header fault (baseName o.title))
    return .forIn isAsync target (← locatedPart o source site iter)

/-- The header that a text is, if it is one. -/
def header? (text : String) : Option (Bool × Header κ) :=
  match headerKeyword? text with
  | none => none
  | some "elif" =>
    (language.header o.enableAsync "if" ("if" ++ text.drop 4)).map (true, ·)
  | some keyword => (language.header o.enableAsync keyword text).map (false, ·)

/-- The statement that a text is. -/
def statementOf (site : Site) (text : String) : Except CompileFault (Statement κ) :=
  if isEnd text then .ok .endBlock
  else if text = "break" then .ok .breakLoop
  else if text = "continue" then .ok .continueLoop
  else if isElse text then .ok .elseDo
  else match header? language o text with
    | some (isElif, header) => headerStatement o source site isElif header
    | none =>
      .simple <$> located o source site (language.statements o.enableAsync (endComment text))

/-- Adds the instruction of a statement tag; an empty one does nothing. -/
def addStatement (s : ScanState κ) (site : Site) (body : String) :
    Except CompileFault (ScanState κ) := do
  let text := statementText body
  if text = "" then return s
  return s.emit (.statement site text (s.tagText body) (← statementOf language o source site text))

/-- Takes in one token. -/
def scanToken (s : ScanState κ) (t : Token) : Except CompileFault (ScanState κ) :=
  let site : Site := ⟨t.line, t.col⟩
  if t.kind.isOpen then .ok { s with mode := .ofOpen t.kind, opener := some t.value }
  else match t.kind with
    | .openLiteral => .ok (({ s with mode := .literal } : ScanState κ).emit (.literal site "<%"))
    | .closeLiteral => .ok (({ s with mode := .literal } : ScanState κ).emit (.literal site "%>"))
    | .text =>
      match s.mode with
      | .outside | .literal => .ok (s.output site t.value)
      | .eval => addStatement language o source s site t.value
      | .escaped => addExpression language o source s site t.value true
      | .raw => addExpression language o source s site t.value false
      | .comment => .ok s
    | kind =>
      if s.mode = .outside then .error (report o source site (.strayClose t.value))
      else
        let s := if s.mode = .literal then s.output site t.value else s
        .ok { s with mode := .outside, opener := none, trimming := kind.trimsBreak }

/-- A compiled template: its instructions, flat and nested, and whether its code may wait. -/
structure Compiled (κ : Type) where
  program : List (Instruction κ)
  body : List (Node κ)
  isAsync : Bool

/-- Compiles a template. -/
def compile : Except CompileFault (Compiled κ) := do
  let tokens := tokenize source
  match firstUnclosed? tokens with
  | some t => throw (report o source ⟨t.line, t.col⟩ (.unclosedTag t.value))
  | none =>
    let s ← tokens.foldlM (scanToken language o source) {}
    let program := s.program.reverse
    match nest program with
    | .ok body => return { program, body, isAsync := o.enableAsync }
    | .error (fault, site) => throw (report o source site (.block fault))

end Scan

end StreamTemplate.Program
