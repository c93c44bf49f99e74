import StreamTemplate.Program.Instruction

/-!
# Blocks

The flat list of instructions nested into blocks. A header opens a block, `elif` and `else` start a
new clause of the innermost `if`, and an end closes the innermost block. `nest` reads the list with
a stack of the blocks still open and reports the first instruction out of place.
-/

namespace StreamTemplate.Program

mutual

/-- An instruction in its place: either one that stands alone, or a block with its body. -/
inductive Node (κ : Type) where
  | literal (site : Site) (text : String)
  | output (site : Site) (escaped : Bool) (source : String) (code : κ) (tag : String)
  | simple (site : Site) (source : String) (code : κ) (tag : String)
  | control (site : Site) (isBreak : Bool) (tag : String)
  | choice (site : Site) (branches : List (Branch κ)) (tag : String)
  | forLoop (site : Site) (isAsync : Bool) (target iter : κ) (body : List (Node κ)) (tag : String)
  | whileLoop (site : Site) (test : κ) (body : List (Node κ)) (tag : String)

/-- A clause of a choice; one without a condition is always taken. -/
inductive Branch (κ : Type) where
  | mk (test : Option κ) (body : List (Node κ)) (tag : String)

end

namespace Node

variable {κ : Type}

/-- Where the node begins in the template. -/
def site : Node κ → Site
  | literal site _ => site
  | output site .. => site
  | simple site .. => site
  | control site .. => site
  | choice site .. => site
  | forLoop site .. => site
  | whileLoop site .. => site

/-- The tag that the node comes from; literal text comes from none. -/
def tag? : Node κ → Option String
  | literal .. => none
  | output _ _ _ _ tag => some tag
  | simple _ _ _ tag => some tag
  | control _ _ tag => some tag
  | choice _ _ tag => some tag
  | forLoop _ _ _ _ _ tag => some tag
  | whileLoop _ _ _ tag => some tag

end Node

/-- What is wrong with the nesting of blocks. -/
inductive BlockFault where
  | noMatchingIf (kind : StatementKind)
  | afterElse (kind : StatementKind)
  | noOpenBlock (source : String)
  | outsideLoop (kind : StatementKind)
  | unclosed (kind : StatementKind)
  deriving DecidableEq, Repr

/-- The wording of a fault of nesting. -/
def BlockFault.message : BlockFault → String
  | noMatchingIf kind => s!"'{kind.word}' without a matching 'if'"
  | afterElse kind => s!"'{kind.word}' after 'else' in the same 'if' block"
  | noOpenBlock source => s!"'{source}' without an open block"
  | outsideLoop kind => s!"'{kind.word}' outside a loop"
  | unclosed kind => s!"Unclosed '{kind.word}' block (add <% end %>)"

/-- The header of an open block. -/
inductive Opener (κ : Type) where
  | choice
  | forLoop (isAsync : Bool) (target iter : κ)
  | whileLoop (test : κ)

/-- The kind of the statement that opened a block. -/
def Opener.kind {κ : Type} : Opener κ → StatementKind
  | choice => .ifDo
  | forLoop false _ _ => .forIn
  | forLoop true _ _ => .asyncFor
  | whileLoop _ => .whileDo

/-- A block that is still open: its header, the clauses finished so far, and the clause being read.
Clauses and body are kept with the last one first. -/
structure Frame (κ : Type) where
  site : Site
  tag : String
  opener : Opener κ
  clauses : List (Branch κ) := []
  clauseTag : String
  clauseTest : Option κ
  hasElse : Bool := false
  body : List (Node κ) := []

namespace Frame

variable {κ : Type}

/-- The clause being read, as it stands. -/
def clause (f : Frame κ) : Branch κ :=
  .mk f.clauseTest f.body.reverse f.clauseTag

/-- The node of a finished block. -/
def close (f : Frame κ) : Node κ :=
  match f.opener with
  | .choice => .choice f.site (f.clause :: f.clauses).reverse f.tag
  | .forLoop isAsync target iter => .forLoop f.site isAsync target iter f.body.reverse f.tag
  | .whileLoop test => .whileLoop f.site test f.body.reverse f.tag

/-- Starts the next clause of a choice. -/
def nextClause (f : Frame κ) (test : Option κ) (tag : String) : Frame κ :=
  { f with
    clauses := f.clause :: f.clauses
    clauseTag := tag
    clauseTest := test
    hasElse := test.isNone
    body := [] }

end Frame

/-- The blocks still open, the innermost first, and the finished nodes outside all blocks, the last
one first. -/
structure Nesting (κ : Type) where
  frames : List (Frame κ) := []
  root : List (Node κ) := []

namespace Nesting

variable {κ : Type}

/-- Adds a finished node to the innermost block. -/
def add (n : Nesting κ) (node : Node κ) : Nesting κ :=
  match n.frames with
  | [] => { n with root := node :: n.root }
  | f :: outer => { n with frames := { f with body := node :: f.body } :: outer }

/-- Opens a block. -/
def enter (n : Nesting κ) (site : Site) (tag : String) (opener : Opener κ)
    (test : Option κ) : Nesting κ :=
  { n with frames :=
    { site, tag, opener, clauseTag := tag, clauseTest := test } :: n.frames }

/-- Starts another clause of the innermost block, which must be an `if` without an `else`. -/
def divide (n : Nesting κ) (kind : StatementKind) (tag : String) (test : Option κ) :
    Except BlockFault (Nesting κ) :=
  match n.frames with
  | [] => .error (.noMatchingIf kind)
  | f :: outer =>
    match f.opener with
    | .choice =>
      if f.hasElse then .error (.afterElse kind)
      else .ok { n with frames := f.nextClause test tag :: outer }
    | _ => .error (.noMatchingIf kind)

/-- Closes the innermost block. -/
def leave (n : Nesting κ) (source : String) : Except BlockFault (Nesting κ) :=
  match n.frames with
  | [] => .error (.noOpenBlock source)
  | f :: outer => .ok (({ n with frames := outer } : Nesting κ).add f.close)

/-- Whether some open block is a loop. -/
def inLoop (n : Nesting κ) : Bool :=
  n.frames.any (·.opener.kind.isLoop)

/-- Adds a jump out of or back to the start of the innermost loop. -/
def jump (n : Nesting κ) (site : Site) (isBreak : Bool) (tag : String) :
    Except BlockFault (Nesting κ) :=
  if n.inLoop then .ok (n.add (.control site isBreak tag))
  else .error (.outsideLoop (if isBreak then .breakLoop else .continueLoop))

/-- Takes in one instruction. -/
def step (n : Nesting κ) : Instruction κ → Except BlockFault (Nesting κ)
  | .literal site text => .ok (n.add (.literal site text))
  | .output site escaped source code tag => .ok (n.add (.output site escaped source code tag))
  | .statement site source tag s =>
    match s with
    | .simple code => .ok (n.add (.simple site source code tag))
    | .ifDo test => .ok (n.enter site tag .choice (some test))
    | .forIn isAsync target iter => .ok (n.enter site tag (.forLoop isAsync target iter) none)
    | .whileDo test => .ok (n.enter site tag (.whileLoop test) none)
    | .elifDo test => n.divide .elifDo tag (some test)
    | .elseDo => n.divide .elseDo tag none
    | .endBlock => n.leave source
    | .breakLoop => n.jump site true tag
    | .continueLoop => n.jump site false tag

/-- Takes in the instructions in order; the last of them must leave no block open. -/
def run (n : Nesting κ) : List (Instruction κ) → Except (BlockFault × Site) (List (Node κ))
  | [] =>
    match n.frames with
    | [] => .ok n.root.reverse
    | f :: _ => .error (.unclosed f.opener.kind, f.site)
  | i :: rest =>
    match n.step i with
    | .ok n => n.run rest
    | .error fault => .error (fault, i.site)

end Nesting

/-- The block tree of a program. -/
def nest {κ : Type} (program : List (Instruction κ)) : Except (BlockFault × Site) (List (Node κ)) :=
  Nesting.run {} program

end StreamTemplate.Program
