import StreamTemplate.Tag.Expression

/-!
# Grammar of statements

Simple statements stand on one line, with semicolons between them. A compound statement has a body,
on the same line or as an indented block; the functions for compound statements are given `body`,
which reads one.
-/

namespace StreamTemplate.Tag

open Reader

namespace Statement

variable (call : Rule → Reader Expr)

/-! ### Simple statements -/

/-- The operator of an augmented assignment; nothing if it has no meaning here. -/
def augmentedOp : Reader (Option BinaryOp) :=
  accept fun
    | .op s => [("+=", some .add), ("-=", some .sub), ("*=", some .mul), ("/=", some .div),
        ("//=", some .floorDiv), ("%=", some .mod), ("**=", some .pow), ("@=", none),
        ("&=", none), ("|=", none), ("^=", none), ("<<=", none), (">>=", none)].lookup s
    | _ => none

/-- The right side of an assignment. -/
def assigned : Reader Expr :=
  oneOf [call .yielded, call .starExpressions]

/-- A target with the equals sign behind it. -/
def targetOf : Reader Expr := do
  let e ← call .starTargets
  op "="
  return e

/-- A list or tuple in front of an annotation, perhaps in parentheses; at most `depth` pairs of
them. -/
def annotatedDisplay : Nat → Reader Expr
  | 0 => mismatch
  | depth + 1 => oneOf [
    Expression.list call,
    Expression.tuple call,
    do op "("; let e ← annotatedDisplay depth; op ")"; return e]

/-- Mistakes in assignments. -/
def invalidAssignment : Reader Stmt :=
  oneOf [
    do
      let e ← annotatedDisplay call ((← read).words.size)
      op ":"
      let _ ← call .expression
      failAt s!"only single target (not {e.describe}) can be annotated" e.line,
    do
      let e ← call .starNamedExpression
      op ","
      let _ ← many (listed (call .starNamedExpression))
      op ":"
      let _ ← call .expression
      failAt "only single target (not tuple) can be annotated" e.line,
    do
      let e ← call .expression
      op ":"
      let _ ← call .expression
      failAt "illegal target for annotation" e.line,
    do
      let _ ← many (targetOf call)
      let e ← call .starExpressions
      op "="
      failTarget .assign e,
    do
      let _ ← many (targetOf call)
      let e ← call .yielded
      op "="
      failAt "assignment to yield expression not possible" e.line,
    do
      let e ← call .starExpressions
      let _ ← augmentedOp
      let _ ← assigned call
      failAt s!"'{e.describe}' is an illegal expression for augmented assignment" e.line]

/-- A target with an annotation, which has no meaning here. -/
def annotated (target : Reader Expr) : Reader Stmt := do
  let start ← line
  let _ ← target
  op ":"
  let _ ← call .expression
  let _ ← optional do op "="; assigned call
  return .foreign "annotation" start

/-- An assignment. -/
def assignment : Reader Stmt := do
  let start ← line
  oneOf [
    annotated call Target.nameTarget,
    annotated call <| oneOf [
      do op "("; let e ← call .singleTarget; op ")"; return e,
      Target.lastAccess call],
    do
      let targets ← many1 (targetOf call)
      let value ← assigned call
      notAhead (op "=")
      return .assign targets value,
    do
      let target ← call .singleTarget
      let found ← augmentedOp
      let value ← committing (assigned call)
      return match found with
        | some o => .augmented target o value
        | none => .foreign "augmented assignment" start,
    mistake (invalidAssignment call)]

/-- A `del` with its targets. -/
def deletion : Reader Stmt :=
  oneOf [
    do
      keyword "del"
      let targets ← listed (call .deleted)
      ahead (oneOf [op ";", newline])
      return .delete targets,
    mistake do
      keyword "del"
      failTarget .delete (← call .starExpressions)]

/-- A statement without a body. -/
def simple : Reader Stmt := do
  let start ← line
  rememberSimple <| rule <| oneOf [
    rule (assignment call),
    do return .expr (← call .starExpressions),
    do keyword "return"; return .return (← optional (call .starExpressions)) start,
    do keyword "pass"; return .pass,
    deletion call,
    do return .expr (← call .yielded),
    do keyword "break"; return .break start,
    do keyword "continue"; return .continue start]

/-- The statements of a line. -/
def simpleLine : Reader (List Stmt) :=
  oneOf [
    do
      let s ← simple call
      notAhead (op ";")
      newline
      return [s],
    do
      let all ← separated ";" (simple call)
      let _ ← optional (op ";")
      newline
      return all]

/-! ### Compound statements -/

/-- A header without its colon, or without a body, where `header` reads it up to the colon. -/
def invalidHeader {α : Type} (word : String) (header : Reader Unit) : List (Reader α) :=
  [do
      header
      newline
      failHere "expected ':'",
    do
      let start ← line
      header
      op ":"
      newline
      notAhead indent
      failHere s!"expected an indented block after '{word}' statement on line {start}"]

variable (body : Reader (List Stmt))

/-- An `else` with its body. -/
def otherwise : Reader (List Stmt) :=
  oneOf [
    mistake do
      let start ← line
      keyword "else"
      op ":"
      newline
      notAhead indent
      failHere s!"expected an indented block after 'else' statement on line {start}",
    do keyword "else"; force ":"; body]

/-- What comes behind a body: an `else`, or nothing. -/
def otherwiseOrNot : Reader (List Stmt) :=
  return (← optional (otherwise body)).getD []

/-- An `if` or `elif` with its body and all that belongs to it, at most `length` headers. -/
def conditional (word : String) : Nat → Reader Stmt
  | 0 => mismatch
  | length + 1 => rule <| oneOf [
    mistake <| oneOf <| invalidHeader word do
      keyword word
      let _ ← call .namedExpression,
    do
      keyword word
      let test ← call .namedExpression
      op ":"
      let yes ← body
      let rest ← oneOf [
        do return [← conditional "elif" length],
        otherwiseOrNot body]
      return .ifElse test yes rest]

/-- A `while`. -/
def whileLoop : Reader Stmt :=
  oneOf [
    mistake <| oneOf <| invalidHeader "while" do
      keyword "while"
      let _ ← call .namedExpression,
    do
      keyword "while"
      let test ← call .namedExpression
      op ":"
      return .whileDo test (← body) (← otherwiseOrNot body)]

/-- A `for`. -/
def forLoop : Reader Stmt := do
  let start ← line
  rule <| oneOf [
    mistake <| oneOf <| invalidHeader "for" do
      let _ ← optional (keyword "async")
      keyword "for"
      let _ ← call .starTargets
      keyword "in"
      let _ ← call .starExpressions,
    do
      let isAsync := (← optional (keyword "async")).isSome
      keyword "for"
      let target ← call .starTargets
      keyword "in"
      committing do
        let iter ← call .starExpressions
        op ":"
        return .forIn isAsync target iter (← body) (← otherwiseOrNot body) start,
    mistake do
      let _ ← optional (keyword "async")
      keyword "for"
      failTarget .loop (← call .starExpressions)]

/-- A manager of a `with`, and what its value is assigned to. -/
def manager : Reader (Expr × Option Expr) :=
  let behind := ahead (oneOf [op ",", op ")", op ":"])
  oneOf [
    do
      let e ← call .expression
      keyword "as"
      let target ← call .starTarget
      behind
      return (e, some target),
    mistake do
      let _ ← call .expression
      keyword "as"
      let e ← call .expression
      behind
      failTarget .assign e,
    do return (← call .expression, none)]

/-- The header of a `with` up to its colon, as far as it takes to see what is wrong behind it. -/
def managersAtFault : Reader Unit := do
  let _ ← optional (keyword "async")
  keyword "with"
  let target : Reader Unit := do
    let _ ← optional do keyword "as"; call .starTarget
  oneOf [
    do let _ ← separated "," do let _ ← call .expression; target,
    do
      op "("
      let _ ← separated "," do
        let _ ← Expression.expressions call .expression
        target
      let _ ← optional (op ",")
      op ")"]

/-- A `with`. -/
def withBlock : Reader Stmt := do
  let start ← line
  oneOf [
    mistake <| oneOf ((invalidHeader "with" (managersAtFault call)).drop 1),
    do
      let isAsync := (← optional (keyword "async")).isSome
      keyword "with"
      let items ← oneOf [
        do
          op "("
          let items ← separated "," (manager call)
          let _ ← optional (op ",")
          op ")"
          op ":"
          return items,
        do
          let items ← separated "," (manager call)
          op ":"
          return items]
      return .withDo isAsync items (← body) start,
    mistake <| oneOf ((invalidHeader "with" (managersAtFault call)).take 1)]

/-- Takes a name that is a keyword in its place. -/
def softWord (word : String) : Reader Unit :=
  accept fun
    | .name id => if id = word then some () else none
    | _ => none

/-- The header of a choice between patterns. -/
def matchHeader : Reader Unit := do
  softWord "match"
  oneOf [
    do
      let _ ← call .starNamedExpression
      op ","
      let _ ← optional (listed (call .starNamedExpression)),
    do let _ ← call .namedExpression]

/-- A choice between patterns, which has no meaning here, as far as the word in front of the first
pattern. -/
def matchBlock : Reader Stmt := do
  let start ← line
  oneOf [
    do
      matchHeader call
      op ":"
      newline
      indent
      softWord "case"
      failAt "a choice between patterns has no meaning here" start,
    mistake (oneOf (invalidHeader "match" (matchHeader call)))]

/-- A statement, or all simple statements of a line. -/
def statement : Reader (List Stmt) := do
  let bound := (← read).words.size
  oneOf [
    do return [← conditional call body "if" bound],
    do return [← withBlock call body],
    do return [← forLoop call body],
    do return [← whileLoop call body],
    do return [← matchBlock call],
    simpleLine call]

/-- The body of a header: the rest of its line, or an indented block. At most `depth` bodies are
nested. -/
def block : Nat → Reader (List Stmt)
  | 0 => mismatch
  | depth + 1 => rememberBlock <| rule <| oneOf [
    do
      newline
      indent
      let all ← many1 (statement call (block depth))
      dedent
      return all.flatten,
    simpleLine call,
    mistake do
      newline
      notAhead indent
      failHere "expected an indented block"]

end Statement

end StreamTemplate.Tag
