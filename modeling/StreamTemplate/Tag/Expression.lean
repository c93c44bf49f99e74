import StreamTemplate.Tag.Target

/-!
# Grammar of expressions

One function for each kind of expression. Each is given `call`, which reads the kinds of
expressions that it refers to; `readRule` ties them together. The depth of that recursion is bounded
by the number of words.
-/

namespace StreamTemplate.Tag

open Reader

namespace Expression

variable (call : Rule → Reader Expr)

/-! ### Operators -/

/-- Operands joined by a keyword, grouped to the right. -/
def joined (operand : Rule) (word : String) (join : Expr → Expr → Nat → Expr) : Reader Expr := do
  let start ← line
  let first ← call operand
  let rest ← many do keyword word; call operand
  let all := (first :: rest).reverse
  return (all.drop 1).foldl (fun right left => join left right start) (all.headD first)

/-- A comparison operator, which may be two words. -/
def compareOp : Reader CompareOp :=
  oneOf [
    do op "=="; return .eq,
    do op "!="; return .ne,
    do op "<="; return .le,
    do op "<"; return .lt,
    do op ">="; return .ge,
    do op ">"; return .gt,
    do keyword "not"; keyword "in"; return .notIn,
    do keyword "in"; return .isIn,
    do keyword "is"; keyword "not"; return .isNot,
    do keyword "is"; return .is]

/-- Operands joined by comparison operators. -/
def comparison : Reader Expr := do
  let start ← line
  let first ← call .bitOr
  let rest ← many do return (← compareOp, ← call .bitOr)
  return if rest.isEmpty then first else .compare first rest start

/-- Operands joined by operators of one binding strength, grouped to the left. An operator without
a meaning here makes a foreign expression. -/
def grouped (operand : Rule) (ops : List (String × Option BinaryOp)) : Reader Expr := do
  let start ← line
  let first ← call operand
  extend (fun left => do
    let found ← accept fun
      | .op s => ops.lookup s
      | _ => none
    let right ← call operand
    return match found with
      | some o => .binary o left right start
      | none => .foreign "expression" start) first

/-- A signed operand or a power. -/
def factor : Reader Expr := do
  let start ← line
  oneOf [
    do op "+"; return .unary .plus (← call .factor) start,
    do op "-"; return .unary .negate (← call .factor) start,
    do op "~"; let _ ← call .factor; return .foreign "expression" start,
    call .power]

/-- An operand, perhaps raised to a power. -/
def power : Reader Expr := do
  let start ← line
  let base ← call .awaited
  match ← optional do op "**"; call .factor with
  | some exponent => return .binary .pow base exponent start
  | none => return base

/-- An operand, perhaps awaited. -/
def awaited : Reader Expr := do
  let start ← line
  oneOf [do keyword "await"; return .await (← call .primary) start, call .primary]

/-! ### Comprehensions -/

/-- The loops and conditions of a comprehension, which have no meaning here. -/
def comprehension : Reader Unit := do
  let _ ← many1 <| rule <| oneOf [
    do
      let _ ← optional (keyword "async")
      keyword "for"
      let _ ← call .starTargets
      keyword "in"
      committing do
        let _ ← call .disjunction
        let _ ← many do keyword "if"; call .disjunction,
    mistake do
      let _ ← optional (keyword "async")
      keyword "for"
      failTarget .loop (← call .starExpressions)]

/-- A name that is given a value inside an expression. -/
def named : Reader Expr := do
  let start ← line
  let _ ← name
  op ":="
  let _ ← call .expression
  return .foreign "named expression" start

/-- An expression that is not the left side of a value given to a name. -/
def unnamed : Reader Expr := do
  let e ← call .expression
  notAhead (op ":=")
  return e

/-- A part that stands for all its elements. -/
def starred : Reader Expr := do
  let start ← line
  oneOf [
    do op "*"; return .starred (← call .expression) start,
    do op "*"; failHere "Invalid star expression"]

/-- Mistakes in comprehensions. -/
def invalidComprehension : Reader Expr :=
  let opening := oneOf [op "[", op "\x7b"]
  oneOf [
    do
      oneOf [op "[", op "(", op "\x7b"]
      let e ← starred call
      comprehension call
      failAt "iterable unpacking cannot be used in comprehension" e.line,
    do
      opening
      let e ← call .starNamedExpression
      op ","
      let _ ← listed (call .starNamedExpression)
      comprehension call
      failAt "did you forget parentheses around the comprehension target?" e.line,
    do
      opening
      let e ← call .starNamedExpression
      op ","
      comprehension call
      failAt "did you forget parentheses around the comprehension target?" e.line]

/-- A comprehension between parentheses. -/
def generator : Reader Expr := do
  let start ← line
  oneOf [
    do
      op "("
      let _ ← oneOf [rule (named call), unnamed call]
      comprehension call
      op ")"
      return .foreign "generator expression" start,
    mistake (invalidComprehension call)]

/-! ### Arguments -/

/-- The arguments of a call: values, and for each argument with a name whether it is one, or stands
for several. -/
structure Arguments where
  positional : List Expr
  keywords : List Bool

/-- Mistakes in arguments with names. -/
def invalidKeyword : Reader Unit :=
  oneOf [
    do
      let start ← line
      let constant ← accept fun
        | .keyword s => if s ∈ ["True", "False", "None"] then some s else none
        | _ => none
      op "="
      failAt s!"cannot assign to {constant}" start,
    do
      let start ← line
      let _ ← name
      op "="
      let _ ← call .expression
      comprehension call
      failAt "invalid syntax. Maybe you meant '==' or ':=' instead of '='?" start,
    do
      notAhead do let _ ← name; op "="
      let e ← call .expression
      op "="
      failAt "expression cannot contain assignment, perhaps you meant \"==\"?" e.line]

/-- An argument with a name. -/
def keywordArgument : Reader Unit := do
  let _ ← name
  op "="
  let _ ← call .expression

/-- The arguments behind the first one with a name. -/
def keywords : Reader Arguments :=
  let starredOne : Reader Arguments := oneOf [
    mistake do invalidKeyword call; mismatch,
    do keywordArgument call; return ⟨[], [true]⟩,
    do return ⟨[← starred call], []⟩]
  let double : Reader Arguments := oneOf [
    mistake do invalidKeyword call; mismatch,
    do keywordArgument call; return ⟨[], [true]⟩,
    do op "**"; let _ ← call .expression; return ⟨[], [false]⟩]
  let gather (all : List Arguments) : Arguments :=
    ⟨all.flatMap (·.positional), all.flatMap (·.keywords)⟩
  oneOf [
    do
      let first ← separated "," starredOne
      op ","
      return gather (first ++ (← separated "," double)),
    do return gather (← separated "," starredOne),
    do return gather (← separated "," double)]

/-- The arguments of a call. -/
def arguments : Reader Arguments :=
  oneOf [
    do
      let first ← separated "," <| oneOf [
        starred call,
        do
          let e ← oneOf [rule (named call), unnamed call]
          notAhead (op "=")
          return e]
      match ← optional do op ","; keywords call with
      | some more => return ⟨first ++ more.positional, more.keywords⟩
      | none => return ⟨first, []⟩,
    keywords call]

/-- Mistakes in arguments. -/
def invalidArguments : Reader Expr :=
  let unbracketed := "Generator expression must be parenthesized"
  oneOf [
    do
      let start ← line
      let _ ← arguments call
      op ","
      op "*"
      failAt "iterable argument unpacking follows keyword argument unpacking" start,
    do
      let e ← call .expression
      comprehension call
      op ","
      let _ ← optional (oneOf [
        do let _ ← arguments call,
        do let _ ← call .expression; comprehension call])
      failAt unbracketed e.line,
    do
      let start ← line
      let _ ← name
      op "="
      let _ ← call .expression
      comprehension call
      failAt "invalid syntax. Maybe you meant '==' or ':=' instead of '='?" start,
    do
      let a ← arguments call
      comprehension call
      match a.positional with
      | _ :: _ :: _ => failAt unbracketed (a.positional.getLast?.elim 1 Expr.line)
      | _ => giveUp,
    do
      let _ ← arguments call
      op ","
      let e ← call .expression
      comprehension call
      failAt unbracketed e.line,
    do
      let a ← arguments call
      op ","
      let _ ← arguments call
      failHere (if a.keywords.all id then "positional argument follows keyword argument"
        else "positional argument follows keyword argument unpacking")]

/-- The arguments between the parentheses of a call, as a tuple. -/
def argumentList : Reader Expr := do
  let start ← line
  oneOf [
    do
      let a ← arguments call
      let _ ← optional (op ",")
      ahead (op ")")
      let named := a.keywords.map fun _ => .foreign "keyword argument" start
      return .tuple (a.positional ++ named) start,
    mistake (invalidArguments call)]

/-! ### Operands -/

/-- An operand with its accesses and calls. -/
def primary : Reader Expr := do
  let start ← line
  let first ← call .atom
  extend (fun e => oneOf [
    do op "."; let attr ← name; return .attribute e attr start,
    do let g ← generator call; return .call e [g] start,
    do
      op "("
      let args ← optional (call .arguments)
      op ")"
      return .call e (args.elim [] Expr.parts) start,
    do
      op "["
      let index ← call .slices
      op "]"
      return .subscript e index start]) first

/-- An index or a slice. -/
def slice : Reader Expr := do
  let start ← line
  oneOf [
    do
      let first ← optional (call .expression)
      op ":"
      let stop ← optional (call .expression)
      let step ← optional do op ":"; optional (call .expression)
      return .slice first stop (step.bind id) start,
    call .namedExpression]

/-- What stands between the brackets of a subscript: an index, a slice, or several of them. -/
def slices : Reader Expr := do
  let start ← line
  oneOf [
    do let e ← slice call; notAhead (op ","); return e,
    do return .tuple (← listed (oneOf [slice call, starred call])) start]

/-- Takes a literal text or byte string, of which it gives the line too. -/
def literalText : Reader (Nat × Lexeme) := do
  let start ← line
  let lexeme ← accept fun l =>
    match l with
    | .text _ | .bytes _ | .badText .. => some l
    | _ => none
  return (start, lexeme)

/-- Appends literal texts, or byte strings, to the first one. -/
def joinTexts : Literal → List (Nat × Lexeme) → Reader Literal
  | whole, [] => return whole
  | _, (spot, .badText message here) :: _ =>
    if here then failAt message spot else failHere message
  | .text whole, (_, .text s) :: rest => joinTexts (.text (whole ++ s)) rest
  | .bytes whole, (_, .bytes data) :: rest => joinTexts (.bytes (whole ++ data)) rest
  | _, _ => failHere "cannot mix bytes and nonbytes literals"

/-- Literal texts in a row are one literal. -/
def texts : Reader Expr := do
  let start ← line
  let all ← many1 literalText
  let empty := match all with
    | (_, .bytes _) :: _ => .bytes []
    | _ => .text ""
  return .literal (← joinTexts empty all) start

/-- A tuple in parentheses. -/
def tuple : Reader Expr := do
  let start ← line
  op "("
  let items ← optional do
    let first ← call .starNamedExpression
    op ","
    return first :: ((← optional (listed (call .starNamedExpression))).getD [])
  op ")"
  return .tuple (items.getD []) start

/-- An expression in parentheses. -/
def group : Reader Expr :=
  oneOf [
    do
      op "("
      let e ← oneOf [call .yielded, call .namedExpression]
      op ")"
      return e,
    mistake <| oneOf [
      do
        op "("
        let e ← starred call
        op ")"
        failAt "cannot use starred expression here" e.line,
      do
        op "("
        let start ← line
        op "**"
        let _ ← call .expression
        op ")"
        failAt "cannot use double starred expression here" start]]

/-- A list. -/
def list : Reader Expr := do
  let start ← line
  op "["
  let items ← optional (listed (call .starNamedExpression))
  op "]"
  return .list (items.getD []) start

/-- A comprehension between brackets. -/
def listComprehension : Reader Expr := do
  let start ← line
  oneOf [
    do
      op "["
      let _ ← call .namedExpression
      comprehension call
      op "]"
      return .foreign "list comprehension" start,
    mistake (invalidComprehension call)]

/-- A key with its value. -/
def entry : Reader (Expr × Expr) := do
  let key ← call .expression
  op ":"
  return (key, ← call .expression)

/-- An entry of a dictionary; nothing for all entries of another one. -/
def entryOrAll : Reader (Option (Expr × Expr)) :=
  oneOf [
    do op "**"; let _ ← call .bitOr; return none,
    some <$> entry call]

/-- Mistakes in the value of an entry. -/
def invalidValue : List (Reader Unit) :=
  [do
      let _ ← call .expression
      op ":"
      let start ← line
      op "*"
      let _ ← call .bitOr
      failAt "cannot use a starred expression in a dictionary value" start,
    do
      let _ ← call .expression
      let start ← line
      op ":"
      ahead (oneOf [op "\x7d", op ","])
      failAt "expression expected after dictionary key and ':'" start]

/-- Mistakes in a dictionary. -/
def invalidEntries : Reader Unit :=
  oneOf ((do
      let _ ← separated "," (entryOrAll call)
      op ","
      rule <| oneOf ((do
        let key ← call .expression
        notAhead (op ":")
        failAt "':' expected after dictionary key" key.line) :: invalidValue call)) ::
    invalidValue call)

/-- A dictionary. -/
def dict : Reader Expr := do
  let start ← line
  oneOf [
    do
      op "\x7b"
      let entries ← optional (listed (entryOrAll call))
      op "\x7d"
      let entries := entries.getD []
      return if entries.all Option.isSome then .dict (entries.filterMap id) start
        else .foreign "dict literal" start,
    do op "\x7b"; invalidEntries call; op "\x7d"; mismatch]

/-- A set. -/
def set : Reader Expr := do
  let start ← line
  op "\x7b"
  let _ ← listed (call .starNamedExpression)
  op "\x7d"
  return .foreign "set display" start

/-- A comprehension between braces that makes a dictionary. -/
def dictComprehension : Reader Expr := do
  let start ← line
  oneOf [
    do
      op "\x7b"
      let _ ← entry call
      comprehension call
      op "\x7d"
      return .foreign "dict comprehension" start,
    mistake do
      op "\x7b"
      let start ← line
      op "**"
      let _ ← call .bitOr
      comprehension call
      op "\x7d"
      failAt "dict unpacking cannot be used in dict comprehension" start]

/-- A comprehension between braces that makes a set. -/
def setComprehension : Reader Expr := do
  let start ← line
  oneOf [
    do
      op "\x7b"
      let _ ← call .namedExpression
      comprehension call
      op "\x7d"
      return .foreign "set comprehension" start,
    mistake (invalidComprehension call)]

/-- A name, a literal, or something in brackets. -/
def atom : Reader Expr := do
  let word ← peek
  let constant (value : Literal) : Reader Expr := do skip; return .literal value word.line
  match word.lexeme with
  | .name id => skip; return .name id word.line
  | .keyword "True" => constant (.bool true)
  | .keyword "False" => constant (.bool false)
  | .keyword "None" => constant .none
  | .text _ | .bytes _ | .badText .. => texts
  | .int n => constant (.int n)
  | .float x => constant (.float x)
  | .imaginary => do skip; return .foreign "literal" word.line
  | .hugeInt digits =>
    failAt (s!"Exceeds the limit ({Number.digitLimit} digits) for integer string conversion: " ++
      s!"value has {digits} digits; use sys.set_int_max_str_digits() to increase the limit - " ++
      "Consider hexadecimal for huge integer literals to avoid decimal conversion limits.")
      word.line
  | .op "(" => oneOf [tuple call, group call, generator call]
  | .op "[" => oneOf [list call, listComprehension call]
  | .op "\x7b" => oneOf [dict call, set call, dictComprehension call, setComprehension call]
  | .op "..." => constant .ellipsis
  | _ => mismatch

/-! ### Expressions -/

/-- One expression, or several as a tuple. -/
def expressions (part : Rule) : Reader Expr := do
  let start ← line
  let first ← call part
  let rest ← many do op ","; call part
  let comma ← optional (op ",")
  return if rest.isEmpty && comma.isNone then first else .tuple (first :: rest) start

/-- An expression, or one that stands for all its elements. -/
def starExpression (plain : Rule) : Reader Expr := do
  let start ← line
  oneOf [do op "*"; return .starred (← call .bitOr) start, call plain]

/-- An expression, which may give a value to a name. -/
def namedExpression : Reader Expr :=
  oneOf [rule (named call), mistake (call .misnamed), unnamed call]

/-- Mistakes in giving a value to a name. -/
def misnamed : Reader Expr :=
  let noAssignment := notAhead (oneOf [op "=", op ":="])
  oneOf [
    do
      let e ← call .expression
      op ":="
      let _ ← call .expression
      failAt s!"cannot use assignment expressions with {e.describe}" e.line,
    do
      let start ← line
      let _ ← name
      op "="
      let _ ← call .bitOr
      noAssignment
      failAt "invalid syntax. Maybe you meant '==' or ':=' instead of '='?" start,
    do
      notAhead (oneOf [
        do let _ ← oneOf [list call, tuple call, generator call],
        keyword "True", keyword "None", keyword "False"])
      let e ← call .bitOr
      op "="
      let _ ← call .bitOr
      noAssignment
      failAt s!"cannot assign to {e.describe} here. Maybe you meant '==' instead of '='?" e.line]

/-- Whether an expression is one of the two names that were once statements of their own. -/
def isLegacy : Expr → Bool
  | .name id _ => id == "print" || id == "exec"
  | _ => false

/-- A name that could be the beginning of one of the words that are keywords in places. -/
def softKeyword : Reader Unit :=
  accept fun
    | .name id => if ["_", "case", "match"].any (id.isPrefixOf ·) then some () else none
    | _ => none

/-- Two expressions in a row, and a condition without an alternative. -/
def invalidExpression : Reader Expr :=
  oneOf [
    do
      notAhead <| oneOf [
        do let _ ← name; let _ ← literalText,
        softKeyword]
      let e ← call .disjunction
      let _ ← unsuspecting (call .plainExpression)
      if isLegacy e || (← previous).depth = 0 then giveUp
      failAt "invalid syntax. Perhaps you forgot a comma?" e.line,
    do
      let e ← call .disjunction
      keyword "if"
      let _ ← call .disjunction
      notAhead (oneOf [keyword "else", op ":"])
      failAt "expected 'else' after 'if' expression" e.line]

/-- One of the two old statements, followed by what it would have printed or run. -/
def legacyStatement : Reader Expr := do
  let start ← line
  let id ← name
  notAhead (op "(")
  let _ ← call .starExpressions
  if isLegacy (.name id start) then
    failAt s!"Missing parentheses in call to '{id}'. Did you mean {id}(...)?" start
  giveUp

/-- A choice between two expressions by a condition. -/
def conditional : Reader Expr := do
  let start ← line
  let yes ← call .disjunction
  keyword "if"
  let test ← call .disjunction
  keyword "else"
  return .conditional test yes (← call .expression) start

/-- A function without a name, which has no meaning here. -/
def lambda : Reader Expr := do
  let start ← line
  keyword "lambda"
  let parameter : Reader Unit := oneOf [
    do let _ ← name; let _ ← optional do op "="; call .expression,
    do op "*"; let _ ← optional name,
    do op "**"; let _ ← name,
    op "/"]
  let _ ← optional (listed parameter)
  op ":"
  let _ ← call .expression
  return .foreign "lambda" start

/-- A `yield` with its value. -/
def yielded : Reader Expr := do
  let start ← line
  keyword "yield"
  oneOf [
    do keyword "from"; return .yield (some (← call .expression)) start,
    do return .yield (← optional (call .starExpressions)) start]

end Expression

open Expression in
/-- How a kind of expression is read, given how the kinds are read that it refers to. -/
def readBody (call : Rule → Reader Expr) : Rule → Reader Expr
  | .starExpressions => expressions call .starExpression
  | .starExpression => starExpression call .expression
  | .starNamedExpression => starExpression call .namedExpression
  | .namedExpression => namedExpression call
  | .misnamed => misnamed call
  | .expression => oneOf [mistake (invalidExpression call), mistake (legacyStatement call),
      conditional call, call .disjunction, lambda call]
  | .plainExpression => oneOf [conditional call, call .disjunction, lambda call]
  | .disjunction => joined call .conjunction "or" .either
  | .conjunction => joined call .inversion "and" .both
  | .inversion => do
    let start ← line
    oneOf [do keyword "not"; return .unary .not (← call .inversion) start, comparison call]
  | .comparison => comparison call
  | .bitOr => grouped call .bitXor [("|", none)]
  | .bitXor => grouped call .bitAnd [("^", none)]
  | .bitAnd => grouped call .shift [("&", none)]
  | .shift => grouped call .sum [("<<", none), (">>", none)]
  | .sum => grouped call .term [("+", some .add), ("-", some .sub)]
  | .term => grouped call .factor [("*", some .mul), ("/", some .div), ("//", some .floorDiv),
      ("%", some .mod), ("@", none)]
  | .factor => factor call
  | .power => power call
  | .awaited => awaited call
  | .primary => primary call
  | .atom => atom call
  | .slices => slices call
  | .arguments => argumentList call
  | .yielded => yielded call
  | .starTargets => Target.starTargets call
  | .starTarget => Target.starTarget call
  | .plainTarget => Target.plainTarget call
  | .targetAtom => Target.targetAtom call
  | .targetPrimary => Target.targetPrimary call (generator call)
  | .singleTarget => Target.singleTarget call
  | .deleted => Target.deleted call

/-- Whether what is read of a kind is remembered. -/
def Rule.isRemembered : Rule → Bool
  | .expression | .starExpression | .disjunction | .conjunction | .inversion | .bitOr | .bitXor
  | .bitAnd | .shift | .sum | .term | .factor | .awaited | .primary | .arguments | .starTarget
  | .plainTarget | .targetPrimary | .deleted | .misnamed => true
  | _ => false

/-- Reads an expression of a kind; at most `depth` readings are nested. -/
def readRule : Nat → Rule → Reader Expr
  | 0, _ => mismatch
  | depth + 1, r =>
    let p := rule (readBody (readRule depth) r)
    if r.isRemembered then rememberExpression r p else p

end StreamTemplate.Tag
