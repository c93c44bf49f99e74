import StreamTemplate.Tag.Lexer

/-!
# Readers of words

A reader matches words from the front. Where it does not match, another way of reading the same
words is tried: the first alternative that matches is taken. Faults end the reading at once.

A fault is often said to lie at the last word that was looked at, so readers keep track of how far
they have looked. Code that is not grammatical is read a second time, with further alternatives in
force that recognise common mistakes. Expressions that have been read at a place are remembered.
-/

namespace StreamTemplate.Tag

/-- The kinds of expressions, of targets and of their parts that the grammar tells apart. -/
inductive Rule where
  | starExpressions
  | starExpression
  | starNamedExpression
  | namedExpression
  | misnamed
  | expression
  | plainExpression
  | disjunction
  | conjunction
  | inversion
  | comparison
  | bitOr
  | bitXor
  | bitAnd
  | shift
  | sum
  | term
  | factor
  | power
  | awaited
  | primary
  | atom
  | slices
  | arguments
  | yielded
  | starTargets
  | starTarget
  | plainTarget
  | targetAtom
  | targetPrimary
  | singleTarget
  | deleted
  deriving DecidableEq, Repr

/-- Why a reader gives nothing. -/
inductive Refusal where
  /-- The words do not match; another alternative may. -/
  | mismatch
  /-- The words do not match, and no other alternative of the rule is to be tried. -/
  | committed
  | fault (f : CodeFault)

/-- What a reader is told. -/
structure Outlook where
  words : Array Word
  /-- Whether the alternatives that recognise mistakes are in force. -/
  hunting : Bool

/-- What has been read at a place: nothing, or a result and the place behind it. -/
abbrev Remembered (α : Type) := Option (α × Nat)

/-- How far a reading has come. -/
structure Trail where
  /-- The next word. -/
  place : Nat := 0
  /-- How many words have been looked at. -/
  reach : Nat := 0
  /-- The expressions read so far, by place. -/
  expressions : Array (List (Rule × Remembered Expr)) := #[]
  /-- The simple statements read so far. -/
  simple : List (Nat × Remembered Stmt) := []
  /-- The bodies of headers read so far. -/
  blocks : List (Nat × Remembered (List Stmt)) := []

/-- A reader of words. -/
abbrev Reader (α : Type) := ReaderT Outlook (ExceptT Refusal (StateM Trail)) α

namespace Reader

variable {α β : Type}

/-- The words do not match. -/
def mismatch : Reader α :=
  throw .mismatch

/-- The rule gives nothing, whatever its other alternatives. -/
def giveUp : Reader α :=
  throw .committed

/-- Reports a fault at a line. -/
def failAt (message : String) (line : Nat) : Reader α :=
  throw (.fault { message, line := some line })

/-- The word at a place; behind the last one there is the end of the code. -/
def wordAt (o : Outlook) (place : Nat) : Word :=
  o.words.getD place ((o.words.back?).getD { lexeme := .stop, line := 1, depth := 0 })

/-- The next word. Where the code cannot be split into words, that is a fault. -/
def peek : Reader Word := do
  let place := (← get).place
  let word := wordAt (← read) place
  modify fun t => { t with reach := max t.reach (place + 1) }
  match word.lexeme with
  | .unclosed c => failAt s!"'{c}' was never closed" word.line
  | .broken message _ _ => failAt message word.line
  | _ => return word

/-- The line of the next word. -/
def line : Reader Nat :=
  return (← peek).line

/-- Takes the next word. -/
def skip : Reader Unit :=
  modify fun t => { t with place := t.place + 1 }

/-- The word taken last. -/
def previous : Reader Word := do
  return wordAt (← read) ((← get).place - 1)

/-- Reports a fault at the last word looked at. -/
def failHere (message : String) : Reader α := do
  failAt message (wordAt (← read) ((← get).reach - 1)).line

/-- Takes the next word if it means something to `f`. -/
def accept (f : Lexeme → Option α) : Reader α := do
  match f (← peek).lexeme with
  | some a => skip; return a
  | none => mismatch

/-- Takes an operator or a punctuation mark. -/
def op (symbol : String) : Reader Unit :=
  accept fun
    | .op s => if s = symbol then some () else none
    | _ => none

/-- Takes a keyword. -/
def keyword (word : String) : Reader Unit :=
  accept fun
    | .keyword s => if s = word then some () else none
    | _ => none

/-- Takes a name. -/
def name : Reader String :=
  accept fun
    | .name id => some id
    | _ => none

/-- Takes a punctuation mark that must stand here. -/
def force (symbol : String) : Reader Unit := do
  let word ← peek
  match word.lexeme with
  | .op s => if s = symbol then skip else failAt s!"expected '{symbol}'" word.line
  | _ => failAt s!"expected '{symbol}'" word.line

/-- Takes the end of a line. -/
def newline : Reader Unit :=
  accept fun
    | .newline => some ()
    | _ => none

/-- Takes the beginning of an indented block. -/
def indent : Reader Unit :=
  accept fun
    | .indent => some ()
    | _ => none

/-- Takes the end of an indented block. -/
def dedent : Reader Unit :=
  accept fun
    | .dedent => some ()
    | _ => none

/-- Takes the end of the code. -/
def stop : Reader Unit :=
  accept fun
    | .stop => some ()
    | _ => none

/-- Goes on with what becomes of a reader; where it does not match, it has taken nothing. -/
def after (p : Reader α) (next : Except Refusal α → Reader β) : Reader β := fun o => do
  let start := (← get).place
  let outcome : Except Refusal α ← ExceptT.lift (p o).run
  match outcome with
  | .ok a => next (.ok a) o
  | .error (.fault f) => throw (.fault f)
  | .error e =>
    modify fun t => { t with place := start }
    next (.error e) o

/-- The first alternative that matches. -/
def oneOf : List (Reader α) → Reader α
  | [] => mismatch
  | p :: rest => after p fun
    | .ok a => return a
    | .error .committed => giveUp
    | .error _ => oneOf rest

/-- A reader whose alternatives are its own: where it gives up, it does not match. -/
def rule (p : Reader α) : Reader α :=
  after p fun
    | .ok a => return a
    | .error _ => mismatch

/-- Something that may be missing. -/
def optional (p : Reader α) : Reader (Option α) :=
  after p fun
    | .ok a => return some a
    | .error _ => return none

/-- Requires that something follows, without taking it. -/
def ahead (p : Reader α) : Reader Unit := do
  let start := (← get).place
  after p fun
    | .ok _ => modify fun t => { t with place := start }
    | .error _ => mismatch

/-- Requires that something does not follow. -/
def notAhead (p : Reader α) : Reader Unit := do
  let start := (← get).place
  after p fun
    | .ok _ => do
      modify fun t => { t with place := start }
      mismatch
    | .error _ => return ()

/-- Something as often as it matches, `bound` times at most. -/
def manyWithin (p : Reader α) : Nat → Reader (List α)
  | 0 => return []
  | bound + 1 => after p fun
    | .ok a => return a :: (← manyWithin p bound)
    | .error _ => return []

/-- Something as often as it matches. -/
def many (p : Reader α) : Reader (List α) := do
  manyWithin p (← read).words.size

/-- Something once or more often. -/
def many1 (p : Reader α) : Reader (List α) := do
  let first ← p
  return first :: (← many p)

/-- Something once or more often, with separators between. -/
def separated (separator : String) (p : Reader α) : Reader (List α) := do
  let first ← p
  return first :: (← many do op separator; p)

/-- Something once or more often, with commas between and perhaps one behind. -/
def listed (p : Reader α) : Reader (List α) := do
  let items ← separated "," p
  let _ ← optional (op ",")
  return items

/-- Steps that each extend what has been read, as often as one matches, `bound` times at most. -/
def extendWithin (step : α → Reader α) : Nat → α → Reader α
  | 0, a => return a
  | bound + 1, a => after (step a) fun
    | .ok a => extendWithin step bound a
    | .error _ => return a

/-- Steps that each extend what has been read, as often as one matches. -/
def extend (step : α → Reader α) (a : α) : Reader α := do
  extendWithin step (← read).words.size a

/-- Something that must follow if the rule is to give anything. -/
def committing (p : Reader α) : Reader α :=
  after p fun
    | .ok a => return a
    | .error _ => giveUp

/-- An alternative that recognises a mistake. -/
def mistake (p : Reader α) : Reader α := do
  if (← read).hunting then rule p else mismatch

/-- Reads without looking for mistakes. -/
def unsuspecting (p : Reader α) : Reader α :=
  withReader (fun o => { o with hunting := false }) p

/-- Goes back to what was read here before, or reads and remembers it. -/
def remember (find : Trail → Nat → Option (Remembered α))
    (store : Nat → Remembered α → Trail → Trail) (p : Reader α) : Reader α := do
  let start := (← get).place
  let _ ← peek
  match find (← get) start with
  | some (some (a, place)) =>
    modify fun t => { t with place }
    return a
  | some none => mismatch
  | none =>
    after p fun
      | .ok a => do
        modify fun t => store start (some (a, t.place)) t
        return a
      | .error _ => do
        modify (store start none)
        mismatch

/-- An expression of a kind, remembered by its place. -/
def rememberExpression (r : Rule) (p : Reader Expr) : Reader Expr :=
  remember (fun t place => t.expressions[place]?.bind (·.lookup r))
    (fun place e t => { t with expressions := t.expressions.modify place ((r, e) :: ·) }) p

/-- A simple statement, remembered by its place. -/
def rememberSimple (p : Reader Stmt) : Reader Stmt :=
  remember (fun t place => t.simple.lookup place)
    (fun place s t => { t with simple := (place, s) :: t.simple }) p

/-- The body of a header, remembered by its place. -/
def rememberBlock (p : Reader (List Stmt)) : Reader (List Stmt) :=
  remember (fun t place => t.blocks.lookup place)
    (fun place b t => { t with blocks := (place, b) :: t.blocks }) p

end Reader

end StreamTemplate.Tag
