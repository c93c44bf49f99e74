import StreamTemplate.Tag.Statement

/-!
# Reading code

An expression or statements from a whole text, of which nothing may be left over. Code that is not
grammatical is read twice: the first reading finds the last word that makes sense, the second one
looks for a mistake that can be named.
-/

namespace StreamTemplate.Tag

open Reader

/-- What is reported of code that cannot be split into words to its end, when the reading found
`fault` and looked at the words up to the line `last`. A word that breaks the code off may outrank
the fault; else a bracket left open is at fault if the reading came to a later line. -/
def outranked (words : List Word) (fault : CodeFault) (last : Nat) : CodeFault :=
  let unclosed (c : Char) (opened : Nat) : CodeFault :=
    if last > opened then { message := s!"'{c}' was never closed", line := some opened } else fault
  match words.getLast? with
  | some ⟨.unclosed c, opened, _⟩ => unclosed c opened
  | some ⟨.broken message true _, line, _⟩ => { message, line := some line }
  | some ⟨.broken _ false (some (c, opened)), _, _⟩ => unclosed c opened
  | _ => fault

/-- The last word that a reading has looked at. -/
def lastSeen (o : Outlook) (t : Trail) : Word :=
  wordAt o (t.reach - 1)

/-- Whether a reading has come to the end of the code. -/
def seesEnd (lexed : Lexed) (o : Outlook) (t : Trail) : Bool :=
  match (lastSeen o t).lexeme with
  | .unclosed _ | .broken .. => true
  | _ => lexed.hanging == some (t.reach - 1)

/-- The fault of code that is not grammatical, when the first reading stopped at the word `stopped`,
the second one found the mistake `found?`, if any, and both together left the trail `t`. Unless the
mistake was found at the end of the code, the rest of the code may outrank it. -/
def ungrammatical (lexed : Lexed) (o : Outlook) (stopped : Word) (t : Trail)
    (found? : Option CodeFault) : CodeFault :=
  let last := lastSeen o t
  match found?, stopped.lexeme with
  | some f, _ => if seesEnd lexed o t then f else outranked lexed.words f last.line
  | none, .indent => { message := "unexpected indent", line := some stopped.line }
  | none, .dedent => { message := "unexpected unindent", line := some stopped.line }
  | none, _ =>
    outranked lexed.words { message := "invalid syntax", line := some stopped.line } last.line

/-- Reads all words of a text. -/
def readAll {α : Type} (reader : Reader α) (text : String) : Except CodeFault α :=
  if text.toList.contains '\x00' then
    .error { message := "source code string cannot contain null bytes", line := none }
  else
    let lexed := lex text
    let outlook : Outlook := ⟨lexed.words.toArray, false⟩
    let start : Trail := { expressions := Array.replicate (lexed.words.length + 1) [] }
    match (reader outlook).run start with
    | (.ok result, _) => .ok result
    | (.error e, first) =>
      let stopped := lastSeen outlook first
      match e with
      | .fault f => .error (ungrammatical lexed outlook stopped first (some f))
      | _ =>
        let hunt :=
          (reader { outlook with hunting := true }).run { start with reach := first.reach }
        let found? := match hunt.1 with
          | .error (.fault f) => some f
          | _ => none
        .error (ungrammatical lexed outlook stopped hunt.2 found?)

/-- How a kind of expression is read. Between two words at most forty readings are nested. -/
def readExpressions (r : Rule) : Reader Expr := do
  readRule (40 * ((← read).words.size + 2)) r

/-- The expression that a text writes. -/
def readExpression (text : String) : Except CodeFault Expr :=
  readAll (do
    let e ← Expression.expressions readExpressions .expression
    let _ ← many newline
    stop
    return e) text

/-- The text with a line feed at its end. -/
def endLine (text : String) : String :=
  if text.toList.getLast? = some '\n' then text else text ++ "\n"

/-- The statements that a text writes. -/
def readStatements (text : String) : Except CodeFault (List Stmt) :=
  readAll (do
    let body := Statement.block readExpressions ((← read).words.size + 2)
    let all ← optional (many1 (Statement.statement readExpressions body))
    stop
    return (all.getD []).flatten) (endLine text)

end StreamTemplate.Tag
