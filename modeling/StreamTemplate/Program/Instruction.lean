import StreamTemplate.Text.Lines

/-!
# Instructions

A template compiles to a flat list of instructions in the order of the text. Literal text and output
tags append to the output; statement tags run code or begin, divide and end blocks. The type of code
is a parameter: nothing here depends on the language inside tags.
-/

namespace StreamTemplate.Program

/-- A place in a template: line from one, column from zero. -/
structure Site where
  line : Nat
  col : Nat
  deriving DecidableEq, Repr

/-- The kinds of statement tags. -/
inductive StatementKind where
  | simple
  | ifDo
  | elifDo
  | elseDo
  | forIn
  | asyncFor
  | whileDo
  | endBlock
  | breakLoop
  | continueLoop
  deriving DecidableEq, Repr

namespace StatementKind

/-- Every kind. -/
def all : List StatementKind :=
  [simple, ifDo, elifDo, elseDo, forIn, asyncFor, whileDo, endBlock, breakLoop, continueLoop]

/-- The name of a kind in listings. -/
def label : StatementKind → String
  | simple => "SIMPLE"
  | ifDo => "IF"
  | elifDo => "ELIF"
  | elseDo => "ELSE"
  | forIn => "FOR"
  | asyncFor => "ASYNC_FOR"
  | whileDo => "WHILE"
  | endBlock => "END"
  | breakLoop => "BREAK"
  | continueLoop => "CONTINUE"

/-- The words that announce a statement of the kind, as messages write them. -/
def word : StatementKind → String
  | simple => "simple"
  | ifDo => "if"
  | elifDo => "elif"
  | elseDo => "else"
  | forIn => "for"
  | asyncFor => "async for"
  | whileDo => "while"
  | endBlock => "end"
  | breakLoop => "break"
  | continueLoop => "continue"

/-- The kinds that repeat their block. -/
def isLoop : StatementKind → Bool
  | forIn | asyncFor | whileDo => true
  | _ => false

/-- The kinds that begin a block. -/
def opensBlock : StatementKind → Bool
  | ifDo | forIn | asyncFor | whileDo => true
  | _ => false

end StatementKind

/-- A statement with the code it needs: the whole statement, a condition, or an iterable and the
assignment of its items to the loop's target. -/
inductive Statement (κ : Type) where
  | simple (code : κ)
  | ifDo (test : κ)
  | elifDo (test : κ)
  | elseDo
  | forIn (isAsync : Bool) (target iter : κ)
  | whileDo (test : κ)
  | endBlock
  | breakLoop
  | continueLoop

namespace Statement

variable {κ : Type}

/-- The kind of a statement. -/
def kind : Statement κ → StatementKind
  | simple _ => .simple
  | ifDo _ => .ifDo
  | elifDo _ => .elifDo
  | elseDo => .elseDo
  | forIn false _ _ => .forIn
  | forIn true _ _ => .asyncFor
  | whileDo _ => .whileDo
  | endBlock => .endBlock
  | breakLoop => .breakLoop
  | continueLoop => .continueLoop

/-- Whether the statement carries code that is evaluated. -/
def hasCode : Statement κ → Bool
  | elseDo | endBlock | breakLoop | continueLoop => false
  | _ => true

/-- Whether the statement assigns to the target of a loop. -/
def hasTarget : Statement κ → Bool
  | forIn .. => true
  | _ => false

end Statement

/-- One step of a template's program. `source` is the code as written, `tag` the whole tag. -/
inductive Instruction (κ : Type) where
  | literal (site : Site) (text : String)
  | output (site : Site) (escaped : Bool) (source : String) (code : κ) (tag : String)
  | statement (site : Site) (source : String) (tag : String) (statement : Statement κ)

/-- The text with backslashes, line breaks and double quotes escaped, so that it fits on a line
between double quotes. -/
def escapeLiteral (s : String) : String :=
  String.ofList (s.toList.flatMap fun c =>
    if c = '\\' then ['\\', '\\']
    else if c = '\n' then ['\\', 'n']
    else if c = '\r' then ['\\', 'r']
    else if c = '\x22' then ['\\', '\x22']
    else [c])

namespace Instruction

variable {κ : Type}

/-- Where the instruction stands in the template. -/
def site : Instruction κ → Site
  | literal site _ => site
  | output site .. => site
  | statement site .. => site

/-- The instruction in a program listing. -/
def describe : Instruction κ → String
  | literal _ text => "append(\"" ++ escapeLiteral text ++ "\")"
  | output _ true source _ _ => "append(escape(" ++ source ++ "))"
  | output _ false source _ _ => "append(" ++ source ++ ")"
  | statement _ source _ _ => source

end Instruction

/-- The listing of a program: its instructions in order, separated by line feeds. -/
def listing {κ : Type} (program : List (Instruction κ)) : String :=
  "\n".intercalate (program.map (·.describe))

end StreamTemplate.Program
