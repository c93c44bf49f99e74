import StreamTemplate.Text.Blank

/-!
# Colours of diagnostics

Diagnostics for a terminal mark their parts with styles. A style is an escape sequence in front of
the text and one reset behind it; with colours off the text stands alone.
-/

namespace StreamTemplate.Diagnostic

/-- Whether diagnostics are coloured. -/
inductive Palette where
  | plain
  | coloured
  deriving DecidableEq, Repr

/-- The styles of a piece of text. -/
inductive Style where
  | bold
  | dim
  | yellow
  | cyan
  | green
  | brightRed
  | brightBlue
  deriving DecidableEq, Repr

/-- The escape character. -/
def escapeChar : Char := '\x1b'

namespace Style

/-- The number that selects a style. -/
def number : Style → String
  | bold => "1"
  | dim => "2"
  | yellow => "33"
  | cyan => "36"
  | green => "32"
  | brightRed => "91"
  | brightBlue => "94"

/-- The style of a given name. -/
def ofName? : String → Option Style
  | "bold" => some bold
  | "dim" => some dim
  | "yellow" => some yellow
  | "cyan" => some cyan
  | "green" => some green
  | "bright_red" => some brightRed
  | "bright_blue" => some brightBlue
  | _ => none

/-- The sequence that selects the style of that number. -/
def sequence (number : String) : String :=
  String.ofList (escapeChar :: '[' :: number.toList ++ ['m'])

end Style

namespace Palette

/-- The text in the given styles. -/
def paint (palette : Palette) (styles : List Style) (text : String) : String :=
  match palette, styles with
  | plain, _ => text
  | coloured, [] => text
  | coloured, styles =>
    String.join (styles.map fun style => Style.sequence style.number) ++ text ++ Style.sequence "0"

/-- The code in front of an error. -/
def errorCode (palette : Palette) (text : String) : String :=
  palette.paint [.brightRed, .bold] text

/-- A place in a template. -/
def location (palette : Palette) (text : String) : String :=
  palette.paint [.cyan] text

/-- The source line an error is on, and the caret below it. -/
def errorLine (palette : Palette) (text : String) : String :=
  palette.paint [.brightRed] text

/-- The word that announces advice. -/
def hint (palette : Palette) (text : String) : String :=
  palette.paint [.green] text

/-- Text that is there for context. -/
def dimText (palette : Palette) (text : String) : String :=
  palette.paint [.dim] text

/-- The address of documentation. -/
def docsUrl (palette : Palette) (text : String) : String :=
  palette.paint [.brightBlue] text

/-- A message with the code of its error in front, when there is one. -/
def errorHeader (palette : Palette) (code : Option String) (message : String) : String :=
  match code with
  | none => message
  | some "" => message
  | some code => palette.errorCode code ++ ": " ++ message

/-- One numbered source line; the line of the error is marked. -/
def sourceLine (palette : Palette) (number : Int) (content : String) (isError : Bool) : String :=
  let marker := if isError then ">" else " "
  let front := palette.paint [.yellow] (marker ++ Text.alignRight 3 (toString number))
  let body := if isError then palette.errorLine content else palette.dimText content
  front ++ " | " ++ body

end Palette

/-- The characters from `lo` to `hi`. -/
def between (lo hi : Char) (c : Char) : Bool :=
  lo ≤ c && c ≤ hi

/-- How many characters an escape sequence takes up behind its escape character: one, or a bracket
with parameters, intermediates and a final character. -/
def sequenceTail? : List Char → Option Nat
  | '[' :: rest =>
    let params := rest.takeWhile (between '0' '?')
    let rest := rest.drop params.length
    let middle := rest.takeWhile (between ' ' '/')
    match rest.drop middle.length with
    | final :: _ =>
      if between '@' '~' final then some (2 + params.length + middle.length) else none
    | [] => none
  | c :: _ => if between '@' 'Z' c || between '\\' '_' c then some 1 else none
  | [] => none

/-- The characters without escape sequences, after `skip` that belong to one already met. -/
def stripSequences (skip : Nat) : List Char → List Char
  | [] => []
  | c :: rest =>
    match skip with
    | skip + 1 => stripSequences skip rest
    | 0 =>
      match if c = escapeChar then sequenceTail? rest else none with
      | some tail => stripSequences tail rest
      | none => c :: stripSequences 0 rest

/-- The text without escape sequences. -/
def stripColours (text : String) : String :=
  String.ofList (stripSequences 0 text.toList)

/-- Whether diagnostics are coloured: when forced to, else unless forbidden, if they go to a
terminal. A setting that is empty counts as absent. -/
def detectColour (force forbid : Option String) (terminal : Bool) : Bool :=
  if force.any (· ≠ "") then true
  else if forbid.any (· ≠ "") then false
  else terminal

end StreamTemplate.Diagnostic
