import StreamTemplate.Number.Decimal
import StreamTemplate.Number.Integer
import StreamTemplate.Tag.Syntax
import StreamTemplate.Text.Identifier
import StreamTemplate.Text.Lines
import StreamTemplate.Text.Normal
import StreamTemplate.Text.Printable
import StreamTemplate.Text.Codec

/-!
# Words of the code inside tags

Splits code into words. Line structure matters: a line feed outside brackets ends a statement, and
indentation opens and closes blocks. Where the code cannot be split any further, the last word tells
why; it depends on the fault whether it outranks an earlier fault of grammar.
-/

namespace StreamTemplate.Tag

/-- The words of the code. -/
inductive Lexeme where
  | name (id : String)
  | keyword (word : String)
  | int (n : Int)
  /-- A decimal integer with more digits than are read. -/
  | hugeInt (digits : Nat)
  | float (x : Float)
  /-- An imaginary number, which has no meaning here. -/
  | imaginary
  | text (s : String)
  | bytes (data : List UInt8)
  /-- A text with characters that cannot be read; `here` holds if the fault lies at the text. -/
  | badText (message : String) (here : Bool)
  | op (symbol : String)
  | newline
  | indent
  | dedent
  /-- The end of the code. -/
  | stop
  /-- The end of the code inside a bracket. -/
  | unclosed (bracket : Char)
  /-- A character that starts no word. -/
  | stray (c : Char)
  /-- The code cannot be split from here on. A fault that outranks faults of grammar is reported
  even when the reader has stopped before it; `around` is the innermost open bracket with its
  line. -/
  | broken (message : String) (outranks : Bool) (around : Option (Char × Nat))

/-- Whether only what follows the word tells where it ends. -/
def Lexeme.isOpenEnded : Lexeme → Bool
  | name _ | keyword _ | int _ | hugeInt _ | float _ | imaginary | op _ | stray _ => true
  | _ => false

/-- A word with its line and the number of brackets around it. -/
structure Word where
  lexeme : Lexeme
  line : Nat
  depth : Nat

/-- The names with a fixed meaning. -/
def keywords : List String :=
  ["None", "True", "False", "and", "as", "assert", "async", "await", "break", "class", "continue",
    "def", "del", "elif", "else", "except", "finally", "for", "from", "global", "if", "import",
    "in", "is", "lambda", "nonlocal", "not", "or", "pass", "raise", "return", "try", "while",
    "with", "yield"]

/-- The operators and punctuation of three, two and one characters, longest first. -/
def symbols : List String :=
  ["**=", "//=", ">>=", "<<=", "...",
    "**", "//", "==", "!=", "<=", ">=", "<<", ">>", "+=", "-=", "*=", "/=", "%=", "&=", "|=", "^=",
    "@=", "->", ":=", "<>",
    "(", ")", "[", "]", "\x7b", "\x7d", ":", ",", ";", "+", "-", "*", "/", "|", "&", "<", ">", "=",
    ".", "%", "~", "^", "@"]

/-- A fault at a line. -/
def faultAt {α : Type} (message : String) (line : Nat) : Except CodeFault α :=
  .error { message, line := some line }

/-! ### Numbers -/

/-- The value of a digit in bases up to sixteen. -/
def digitValue (c : Char) : Nat :=
  if c.isDigit then c.toNat - '0'.toNat
  else if 'a' ≤ c && c ≤ 'f' then c.toNat - 'a'.toNat + 10
  else if 'A' ≤ c && c ≤ 'F' then c.toNat - 'A'.toNat + 10
  else 16

/-- The number that the digits write in a base. -/
def digitsValue (base : Nat) (cs : List Char) : Nat :=
  cs.foldl (fun n c => n * base + digitValue c) 0

/-- The digits behind a digit, single underscores between them left out, and what follows; an
underscore with no digit behind it stays. -/
def moreDigits (isDigit : Char → Bool) : List Char → List Char × List Char
  | [] => ([], [])
  | '_' :: d :: rest =>
    if isDigit d then
      let (more, rest) := moreDigits isDigit rest
      (d :: more, rest)
    else ([], '_' :: d :: rest)
  | c :: rest =>
    if isDigit c then
      let (more, rest) := moreDigits isDigit rest
      (c :: more, rest)
    else ([], c :: rest)

/-- The digits at the front, which do not begin with an underscore, and what follows. -/
def takeDigits (isDigit : Char → Bool) (cs : List Char) : List Char × List Char :=
  if cs.head?.any isDigit then moreDigits isDigit cs else ([], cs)

/-- A character that may belong to a name. -/
def isNameChar (c : Char) : Bool :=
  c.isAlphanum || c == '_' || c.toNat ≥ 0x80

/-- Whether a number may stand directly in front of the characters: anything that does not go on
like a name, and the words that can follow a number. -/
def endsNumber (cs : List Char) : Bool :=
  let opens (word : String) : Bool := word.toList.isPrefixOf cs
  let isWord (word : String) : Bool :=
    opens word && !((cs.drop word.length).head?.any isNameChar)
  ["if", "in", "is"].any opens || ["and", "else", "for", "or", "not"].any isWord ||
    !(cs.head?.any isNameChar)

/-- The characters without the underscore that may set off the mark of a base. -/
def dropUnderscore : List Char → List Char
  | '_' :: rest => rest
  | cs => cs

/-- A number in a base other than ten, behind its two-character mark. -/
def scanBased (base : Nat) (kind : String) (line : Nat) (cs : List Char) :
    Except CodeFault (Lexeme × List Char) :=
  let (digits, rest) := takeDigits (fun c => digitValue c < base) (dropUnderscore cs)
  match rest.head?.filter Char.isDigit with
  | some c => faultAt s!"invalid digit '{c}' in {kind} literal" line
  | none =>
    if !digits.isEmpty && endsNumber rest then .ok (.int (digitsValue base digits), rest)
    else faultAt s!"invalid {kind} literal" line

/-- The digits behind a point, what follows, and whether there is a point. -/
def scanFraction : List Char → List Char × List Char × Bool
  | '.' :: more =>
    let (digits, rest) := takeDigits Char.isDigit more
    (digits, rest, true)
  | cs => ([], cs, false)

/-- The sign at the front, and what follows. -/
def scanSign : List Char → Int × List Char
  | '-' :: rest => (-1, rest)
  | '+' :: rest => (1, rest)
  | cs => (1, cs)

/-- The exponent at the front, what follows, and whether there is an exponent. -/
def scanPower : List Char → Int × List Char × Bool
  | [] => (0, [], false)
  | e :: more =>
    let (sign, unsigned) := scanSign more
    let (digits, rest) := takeDigits Char.isDigit unsigned
    if (e == 'e' || e == 'E') && !digits.isEmpty then (sign * digitsValue 10 digits, rest, true)
    else (0, e :: more, false)

/-- A decimal number: an integer, or with a fraction or an exponent a floating-point number. -/
def scanDecimal (line : Nat) (cs : List Char) : Except CodeFault (Lexeme × List Char) :=
  let (whole, rest) := takeDigits Char.isDigit cs
  let (fraction, rest, dotted) := scanFraction rest
  let (power, rest, scaled) := scanPower rest
  if rest.head? = some 'j' || rest.head? = some 'J' then
    if endsNumber (rest.drop 1) then .ok (.imaginary, rest.drop 1)
    else faultAt "invalid imaginary literal" line
  else if !endsNumber rest then faultAt "invalid decimal literal" line
  else if dotted || scaled then
    let value := Number.ofDecimal (digitsValue 10 (whole ++ fraction)) (power - fraction.length)
    .ok (.float value, rest)
  else if whole.head? = some '0' && whole.any (· ≠ '0') then
    faultAt ("leading zeros in decimal integer literals are not permitted; " ++
      "use an 0o prefix for octal integers") line
  else if whole.length > Number.digitLimit then .ok (.hugeInt whole.length, rest)
  else .ok (.int (digitsValue 10 whole), rest)

/-- A number. -/
def scanNumber (line : Nat) : List Char → Except CodeFault (Lexeme × List Char)
  | '0' :: b :: rest =>
    if b == 'x' || b == 'X' then scanBased 16 "hexadecimal" line rest
    else if b == 'o' || b == 'O' then scanBased 8 "octal" line rest
    else if b == 'b' || b == 'B' then scanBased 2 "binary" line rest
    else scanDecimal line ('0' :: b :: rest)
  | cs => scanDecimal line cs

/-! ### Texts -/

/-- The characters of a quoted text up to its closing quote, escapes still in place, what follows,
and the number of line feeds passed; `none` when it is not closed. -/
def scanQuoted (quote : Char) (triple : Bool) :
    Nat → List Char → Option (List Char × List Char × Nat)
  | _, [] => none
  | 0, _ => none
  | fuel + 1, c :: rest =>
    if c = '\\' then
      match rest with
      | [] => none
      | d :: rest =>
        (scanQuoted quote triple fuel rest).map fun (body, after, feeds) =>
          (c :: d :: body, after, feeds + if d = '\n' then 1 else 0)
    else if c = quote && (!triple || [quote, quote].isPrefixOf rest) then
      some ([], if triple then rest.drop 2 else rest, 0)
    else if c = '\n' && !triple then none
    else
      (scanQuoted quote triple fuel rest).map fun (body, after, feeds) =>
        (c :: body, after, feeds + if c = '\n' then 1 else 0)

/-- Reads exactly `count` hexadecimal digits. -/
def hexValue? (count : Nat) (cs : List Char) : Option Nat :=
  let digits := cs.take count
  if digits.length = count && digits.all (digitValue · < 16) then some (digitsValue 16 digits)
  else none

/-- The characters that escapes with one letter stand for. -/
def simpleEscape? : Char → Option Char
  | '\\' => some '\\'
  | '\x27' => some '\x27'
  | '\x22' => some '\x22'
  | 'a' => some '\x07'
  | 'b' => some '\x08'
  | 'f' => some '\x0c'
  | 'n' => some '\n'
  | 'r' => some '\r'
  | 't' => some '\t'
  | 'v' => some '\x0b'
  | _ => none

/-- How many characters a character of a text counts for in the positions that faults name: as
many as its widest escape has, if it is not ASCII. -/
def writtenWidth (c : Char) : Nat :=
  if c.toNat < 0x80 then 1 else 10

/-- The escapes made of a letter and a fixed number of hexadecimal digits. -/
def hexEscape? (wide : Bool) (c : Char) : Option (Nat × String) :=
  if c = 'x' then some (2, "\\xXX")
  else if wide && c = 'u' then some (4, "\\uXXXX")
  else if wide && c = 'U' then some (8, "\\UXXXXXXXX")
  else none

/-- The wording of a fault in an escape, which spans the positions from `start` up to `stop`. -/
def escapeFault (start stop : Nat) (reason : String) : String :=
  s!"(unicode error) 'unicodeescape' codec can't decode bytes in position {start}-{stop}: {reason}"

/-- The characters that a text with escapes stands for; `wide` admits the escapes for code points
beyond a byte, and `place` is the position reached. An escape without a meaning stands for
itself. -/
def unescape (wide : Bool) : Nat → Nat → List Char → Except String (List Char)
  | _, _, [] => .ok []
  | 0, _, _ => .ok []
  | fuel + 1, place, '\\' :: c :: rest =>
    if c = '\n' then unescape wide fuel (place + 2) rest
    else match simpleEscape? c with
      | some d => (d :: ·) <$> unescape wide fuel (place + 2) rest
      | none =>
        if digitValue c < 8 then
          let digits := (c :: rest.take 2).takeWhile (digitValue · < 8)
          let n := digitsValue 8 digits
          (Char.ofNat (if wide then n else n % 0x100) :: ·) <$>
            unescape wide fuel (place + 1 + digits.length) (rest.drop (digits.length - 1))
        else match hexEscape? wide c with
          | some (width, form) =>
            match hexValue? width rest with
            | some n =>
              if n < 0x110000 then
                (Char.ofNat n :: ·) <$> unescape wide fuel (place + 2 + width) (rest.drop width)
              else .error (escapeFault place (place + 1 + width) "illegal Unicode character")
            | none =>
              let digits := (rest.take width).takeWhile (digitValue · < 16)
              .error (if wide then
                  escapeFault place (place + 1 + digits.length) s!"truncated {form} escape"
                else s!"(value error) invalid \\x escape at position {place}")
          | none =>
            let width := if c.toNat < 0x80 then 2 else 6 + writtenWidth c
            (['\\', c] ++ ·) <$> unescape wide fuel (place + width) rest
  | fuel + 1, place, c :: rest => (c :: ·) <$> unescape wide fuel (place + writtenWidth c) rest

/-- The line on which a text that is not closed ends: the first one whose line feed has no backslash
in front of it. -/
def lastLine (line : Nat) : List Char → Nat
  | '\\' :: '\n' :: c :: rest => lastLine (line + 1) (c :: rest)
  | '\n' :: _ => line
  | _ :: rest => lastLine line rest
  | [] => line

/-- The word that a quoted text is: `letters` are those in front of its quote, of which `r` keeps escapes,
`b` makes bytes, and `u` means nothing. -/
def quotedWord (letters raw : List Char) : Lexeme :=
  let isBytes := letters.any fun c => c = 'b' || c = 'B'
  let plain := if letters.any (fun c => c = 'r' || c = 'R') then .ok raw
    else unescape (!isBytes) (raw.length + 1) 0 raw
  if isBytes && raw.any (·.toNat ≥ 0x80) then
    .badText "bytes can only contain ASCII literal characters" true
  else match plain with
    | .error message => .badText message false
    | .ok chars =>
      if isBytes then .bytes (chars.map fun c => c.toNat.toUInt8) else .text (String.ofList chars)

/-- A quoted text behind its opening quote, what follows, and the number of line feeds inside. -/
def scanText (letters : List Char) (line : Nat) (quote : Char) (cs : List Char) :
    Except CodeFault (Lexeme × List Char × Nat) :=
  let triple := [quote, quote].isPrefixOf cs
  let body := if triple then cs.drop 2 else cs
  match scanQuoted quote triple (body.length + 1) body with
  | some (raw, rest, feeds) => .ok (quotedWord letters raw, rest, feeds)
  | none =>
    if triple then
      let breaks := (body.filter (· = '\n')).length
      let last := line + breaks - if body.getLast? = some '\n' then 1 else 0
      faultAt s!"unterminated triple-quoted string literal (detected at line {last})" line
    else
      faultAt s!"unterminated string literal (detected at line {lastLine line body})" line

/-! ### Words -/

/-- What has been read so far. -/
structure LexState where
  /-- The words, the last one first. -/
  words : List Word := []
  line : Nat := 1
  /-- The open brackets with their lines, the innermost first. -/
  brackets : List (Char × Nat) := []
  /-- The widths of the open indentations, the innermost first, each counted twice: with tabs up to
  the next multiple of eight, and with tabs as one. -/
  indents : List (Nat × Nat) := []
  /-- Whether the next character starts a line. -/
  fresh : Bool := true

namespace LexState

/-- Adds a word at the current line. -/
def push (s : LexState) (lexeme : Lexeme) : LexState :=
  { s with
    words := { lexeme, line := s.line, depth := s.brackets.length } :: s.words
    fresh := false }

/-- What is known of the indentation at the front of a line. -/
structure Indentation where
  wide : Nat := 0
  narrow : Nat := 0
  /-- The width reached at the first line break behind a backslash; zero if there is none. -/
  fixed : Nat := 0
  /-- The number of such line breaks. -/
  breaks : Nat := 0

/-- The indentation at the front of a line, and what follows. A line break behind a backslash does
not end it, but its width is then settled, unless it is zero. -/
def measure (m : Indentation) : List Char → Indentation × List Char
  | '\\' :: '\n' :: rest =>
    measure { m with fixed := if m.fixed = 0 then m.wide else m.fixed, breaks := m.breaks + 1 } rest
  | c :: rest =>
    if c = ' ' then measure { m with wide := m.wide + 1, narrow := m.narrow + 1 } rest
    else if c = '\t' then
      measure { m with wide := (m.wide / 8 + 1) * 8, narrow := m.narrow + 1 } rest
    else if c = '\x0c' then measure { m with wide := 0, narrow := 0 } rest
    else (m, c :: rest)
  | [] => (m, [])

/-- Whether the last word ended a line, or there is none. -/
def betweenLines (s : LexState) : Bool :=
  match s.words with
  | [] => true
  | w :: _ => match w.lexeme with
    | .newline | .indent | .dedent => true
    | _ => false

/-- Why the indentation of a line fits nowhere. -/
inductive IndentFault where
  | mixed
  | unmatched
  | tooDeep

/-- The wording of a fault of indentation. -/
def IndentFault.message : IndentFault → String
  | mixed => "inconsistent use of tabs and spaces in indentation"
  | unmatched => "unindent does not match any outer indentation level"
  | tooDeep => "too many levels of indentation"

/-- The most indentations that can be open at once. -/
def indentLimit : Nat :=
  99

/-- Closes indentations until one as wide as the line is met. -/
def closeIndents (s : LexState) (wide narrow : Nat) : Nat → Except IndentFault LexState
  | 0 => .ok s
  | fuel + 1 =>
    match s.indents with
    | (top, alt) :: outer =>
      if wide < top then
        closeIndents { s.push .dedent with indents := outer } wide narrow fuel
      else if wide = top then
        if narrow = alt then .ok s else .error .mixed
      else .error .unmatched
    | [] => if wide = 0 then .ok s else .error .unmatched

/-- Compares the indentation of a line with that of the open blocks. -/
def indentTo (s : LexState) (wide narrow : Nat) : Except IndentFault LexState :=
  let (top, alt) := s.indents.headD (0, 0)
  if wide = top then
    if narrow = alt then .ok s else .error .mixed
  else if wide > top then
    if s.indents.length ≥ indentLimit then .error .tooDeep
    else if narrow > alt then .ok { s.push .indent with indents := (wide, narrow) :: s.indents }
    else .error .mixed
  else s.closeIndents wide narrow (s.indents.length + 1)

/-- The bracket that closes a given one. -/
def closer (c : Char) : Char :=
  if c = '(' then ')' else if c = '[' then ']' else '\x7d'

/-- The most brackets that can be open at once. -/
def bracketLimit : Nat :=
  200

/-- Adds an operator or a punctuation mark, keeping track of brackets. -/
def pushSymbol (s : LexState) (symbol : String) : Except CodeFault LexState :=
  match symbol.toList with
  | [c] =>
    if c = '(' || c = '[' || c = '\x7b' then
      if s.brackets.length ≥ bracketLimit then faultAt "too many nested parentheses" s.line
      else .ok (({ s with brackets := (c, s.line) :: s.brackets } : LexState).push (.op symbol))
    else if c = ')' || c = ']' || c = '\x7d' then
      match s.brackets with
      | [] => faultAt s!"unmatched '{c}'" s.line
      | (opener, line) :: outer =>
        if closer opener = c then .ok (({ s with brackets := outer } : LexState).push (.op symbol))
        else
          let place := if line = s.line then "" else s!" on line {line}"
          faultAt (s!"closing parenthesis '{c}' does not match opening parenthesis '{opener}'" ++
            place) s.line
    else .ok (s.push (.op symbol))
  | _ => .ok (s.push (.op symbol))

/-- The words in order, the last one telling why the code cannot be split further. -/
def breakOff (s : LexState) (message : String) (line : Nat) (outranks : Bool) : List Word :=
  ({ lexeme := .broken message outranks s.brackets.head?, line, depth := s.brackets.length } ::
    s.words).reverse

/-- The words in order, the last one reporting a fault that outranks those of grammar. -/
def breakAt (s : LexState) (fault : CodeFault) : List Word :=
  s.breakOff fault.message (fault.line.getD s.line) true

/-- The words in order, with those that end the code. -/
def finish (s : LexState) : List Word :=
  match s.brackets with
  | (c, line) :: _ =>
    ({ lexeme := .unclosed c, line, depth := s.brackets.length } :: s.words).reverse
  | [] =>
    let s := if s.betweenLines then s else s.push .newline
    let s := s.indents.foldl (fun s _ => s.push .dedent) s
    (s.push .stop).words.reverse

end LexState

/-- The name or keyword made of the characters, if each is allowed where it stands. Names that
look alike to a reader are one: a name stands for its normal form. -/
def nameWord (line : Nat) (cs : List Char) : Except CodeFault Lexeme :=
  let bad := cs.zipIdx.find? fun (c, i) =>
    !(if i = 0 then Text.isIdentifierStart c else Text.isIdentifierRest c)
  match bad with
  | some (c, _) =>
    let digits := String.ofList (Text.hexDigits 4 c.toNat |>.map Char.toUpper)
    if Text.isPrintable c then faultAt s!"invalid character '{c}' (U+{digits})" line
    else faultAt s!"invalid non-printable character U+{digits}" line
  | none =>
    let word := String.ofList cs
    .ok (if word ∈ keywords then .keyword word else .name (Text.normalForm word))

/-- The quote that opens a text behind the letters, if they are some that may stand there. -/
def quoteAfter? (letters after : List Char) : Option Char :=
  match after with
  | q :: _ =>
    if (q = '\x27' || q = '\x22') && letters.length ≤ 2 &&
        String.ofList (letters.map Char.toLower) ∈ ["", "r", "u", "b", "br", "rb"] then some q
    else none
  | [] => none

/-- The wording of code that ends behind a backslash. -/
def endsEarly : String :=
  "unexpected EOF while parsing"

/-- What a step leads to: all words, or what has been read behind some characters, and the ones left. -/
inductive LexStep where
  | done (words : List Word)
  | next (s : LexState) (rest : List Char)

namespace LexState

/-- The step at the start of a line outside brackets: the indentation is compared with that of the open
blocks, unless the line is empty or holds a comment only. -/
def startLine (s : LexState) (cs : List Char) : LexStep :=
  let (m, rest) := measure {} cs
  let s := { s with line := s.line + m.breaks }
  match rest with
  | [] =>
    if m.breaks > 0 then .done (s.breakOff endsEarly (s.line - 1) false)
    else .done ({ s with line := if s.line > 1 then s.line - 1 else 1 } : LexState).finish
  | '\\' :: _ =>
    .done (s.breakOff "unexpected character after line continuation character" s.line false)
  | '#' :: _ => .next { s with fresh := false } rest
  | '\n' :: rest => .next { s with line := s.line + 1 } rest
  | _ =>
    let indented := if m.fixed = 0 then s.indentTo m.wide m.narrow else s.indentTo m.fixed m.fixed
    match indented with
    | .error e => .done (s.breakOff e.message s.line false)
    | .ok s => .next { s with fresh := false } rest

/-- The step that reads a word, which begins with the given character. -/
def readWord (s : LexState) (c : Char) (rest : List Char) : LexStep :=
  let cs := c :: rest
  if c.isDigit || (c = '.' && rest.head?.any Char.isDigit) then
    match scanNumber s.line cs with
    | .error e => .done (s.breakAt e)
    | .ok (lexeme, rest) => .next (s.push lexeme) rest
  else
    let letters := cs.takeWhile isNameChar
    let after := cs.drop letters.length
    match quoteAfter? letters after with
    | some quote =>
      match scanText letters s.line quote (after.drop 1) with
      | .error e => .done (s.breakAt e)
      | .ok (lexeme, rest, feeds) =>
        let s := s.push lexeme
        .next { s with line := s.line + feeds } rest
    | none =>
      if !letters.isEmpty then
        match nameWord s.line letters with
        | .error e => .done (s.breakAt e)
        | .ok lexeme => .next (s.push lexeme) after
      else
        match symbols.find? fun symbol => symbol.toList.isPrefixOf cs with
        | some symbol =>
          match s.pushSymbol symbol with
          | .error e => .done (s.breakAt e)
          | .ok s => .next s (cs.drop symbol.length)
        | none => .next (s.push (.stray c)) rest

/-- One step through the code. -/
def step (s : LexState) (cs : List Char) : LexStep :=
  if s.fresh && s.brackets.isEmpty then s.startLine cs
  else
    match cs with
    | [] => .done s.finish
    | '\n' :: rest =>
      let s := if s.brackets.isEmpty && !s.betweenLines then s.push .newline else s
      .next { s with line := s.line + 1, fresh := s.brackets.isEmpty } rest
    | '#' :: rest => .next s (rest.dropWhile (· ≠ '\n'))
    | '\\' :: '\n' :: [] =>
      .done (if s.brackets.isEmpty then s.breakOff endsEarly s.line false else s.finish)
    | '\\' :: '\n' :: rest => .next { s with line := s.line + 1 } rest
    | '\\' :: _ =>
      .done (s.breakOff "unexpected character after line continuation character" s.line false)
    | c :: rest => if c = ' ' || c = '\t' || c = '\x0c' then .next s rest else s.readWord c rest

/-- Whether a step has read a word that only the end of the code ends. -/
def endsCode (before after : LexState) (rest : List Char) : Bool :=
  rest.isEmpty && before.words.length < after.words.length &&
    after.words.head?.any (·.lexeme.isOpenEnded)

end LexState

/-- The words of a piece of code. -/
structure Lexed where
  words : List Word
  /-- The place of the word that only the end of the code ends, if there is one. -/
  hanging : Option Nat := none

/-- Reads words until the code ends; every step but those that only end the start of a line takes at
least one character. -/
def lexLoop : Nat → LexState → List Char → Lexed
  | 0, s, _ => { words := s.finish }
  | fuel + 1, s, cs =>
    match s.step cs with
    | .done words => { words }
    | .next s' rest =>
      let lexed := lexLoop fuel s' rest
      if s.endsCode s' rest then { lexed with hanging := some (s'.words.length - 1) } else lexed

/-- Splits a piece of code into words. -/
def lex (code : String) : Lexed :=
  let cs := Text.unifyBreaks code.toList
  lexLoop (2 * cs.length + 2) {} cs

end StreamTemplate.Tag
