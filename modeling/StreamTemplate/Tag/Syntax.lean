/-!
# The language inside tags

Expressions and statements of the code in tags, as trees. Names, attribute accesses and the
constructs that are only allowed in certain places remember their line, because an error about them
is reported there.
-/

namespace StreamTemplate.Tag

/-- A value written out in the code. -/
inductive Literal where
  | none
  | bool (b : Bool)
  | int (n : Int)
  | float (x : Float)
  | text (s : String)
  | bytes (data : List UInt8)
  | ellipsis

/-- The operators with one operand. -/
inductive UnaryOp where
  | negate
  | plus
  | not
  deriving DecidableEq, Repr

/-- The arithmetic operators. -/
inductive BinaryOp where
  | add
  | sub
  | mul
  | div
  | floorDiv
  | mod
  | pow
  deriving DecidableEq, Repr

/-- The comparisons, which can be chained. -/
inductive CompareOp where
  | eq
  | ne
  | lt
  | le
  | gt
  | ge
  | isIn
  | notIn
  | is
  | isNot
  deriving DecidableEq, Repr

/-- Expressions, each with the line on which it begins. Assignment targets are expressions of
certain shapes. -/
inductive Expr where
  | literal (value : Literal) (line : Nat)
  | name (id : String) (line : Nat)
  | list (items : List Expr) (line : Nat)
  | tuple (items : List Expr) (line : Nat)
  | dict (entries : List (Expr × Expr)) (line : Nat)
  | starred (value : Expr) (line : Nat)
  | attribute (value : Expr) (attr : String) (line : Nat)
  | subscript (value : Expr) (index : Expr) (line : Nat)
  | slice (start stop step : Option Expr) (line : Nat)
  | call (function : Expr) (args : List Expr) (line : Nat)
  | unary (op : UnaryOp) (value : Expr) (line : Nat)
  | binary (op : BinaryOp) (left right : Expr) (line : Nat)
  | compare (first : Expr) (rest : List (CompareOp × Expr)) (line : Nat)
  | both (left right : Expr) (line : Nat)
  | either (left right : Expr) (line : Nat)
  | conditional (test yes no : Expr) (line : Nat)
  | await (value : Expr) (line : Nat)
  | yield (value : Option Expr) (line : Nat)
  /-- An expression that is grammatical and has no meaning here, with what it is called. -/
  | foreign (what : String) (line : Nat)

namespace Expr

/-- The line on which an expression begins. -/
def line : Expr → Nat
  | .literal _ n | .name _ n | .list _ n | .tuple _ n | .dict _ n | .starred _ n
  | .attribute _ _ n | .subscript _ _ n | .slice _ _ _ n | .call _ _ n | .unary _ _ n
  | .binary _ _ _ n | .compare _ _ n | .both _ _ n | .either _ _ n | .conditional _ _ _ n
  | .await _ n | .yield _ n | .foreign _ n => n

/-- What an expression is called in faults. -/
def describe : Expr → String
  | .literal .none _ => "None"
  | .literal (.bool true) _ => "True"
  | .literal (.bool false) _ => "False"
  | .literal .ellipsis _ => "ellipsis"
  | .literal .. => "literal"
  | .name .. => "name"
  | .list .. => "list"
  | .tuple .. => "tuple"
  | .dict .. => "dict literal"
  | .starred .. => "starred"
  | .attribute .. => "attribute"
  | .subscript .. => "subscript"
  | .slice .. => "slice"
  | .call .. => "function call"
  | .unary .. | .binary .. | .both .. | .either .. => "expression"
  | .compare .. => "comparison"
  | .conditional .. => "conditional expression"
  | .await .. => "await expression"
  | .yield .. => "yield expression"
  | .foreign what _ => what

/-- The parts of a tuple; anything else is its own only part. -/
def parts : Expr → List Expr
  | .tuple items _ => items
  | e => [e]

end Expr

/-- Statements. -/
inductive Stmt where
  | expr (value : Expr)
  | assign (targets : List Expr) (value : Expr)
  | augmented (target : Expr) (op : BinaryOp) (value : Expr)
  | pass
  | delete (targets : List Expr)
  | break (line : Nat)
  | continue (line : Nat)
  | return (value : Option Expr) (line : Nat)
  | ifElse (test : Expr) (body orElse : List Stmt)
  | forIn (isAsync : Bool) (target iter : Expr) (body orElse : List Stmt) (line : Nat)
  | whileDo (test : Expr) (body orElse : List Stmt)
  | withDo (isAsync : Bool) (items : List (Expr × Option Expr)) (body : List Stmt) (line : Nat)
  /-- A statement that is grammatical and has no meaning here, with what it is called. -/
  | foreign (what : String) (line : Nat)

/-- A piece of code ready to run: an expression, a sequence of statements, or an assignment of the
current loop item to a target. -/
inductive Code where
  | expression (value : Expr)
  | statements (body : List Stmt)
  | target (target : Expr)

/-- Why a piece of code cannot be read: a message, and the line within the code when there is
one. -/
structure CodeFault where
  message : String
  line : Option Nat
  /-- The code is refused as a value that is no code at all, and not for its grammar. -/
  ofValue : Bool := false
  deriving DecidableEq, Repr

end StreamTemplate.Tag
