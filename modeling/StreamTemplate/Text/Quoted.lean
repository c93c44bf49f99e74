import StreamTemplate.Text.Printable

/-!
# Quoted text

The form in which a text or a byte string is shown inside a container, a token or a message: in
quotes, with escapes for what cannot be shown. Single quotes are used unless they occur in the text
and double quotes do not.
-/

namespace StreamTemplate.Text

/-- The single quotation mark. -/
def singleQuote : Char := '\x27'

/-- The double quotation mark. -/
def doubleQuote : Char := '\x22'

/-- The lower-case hexadecimal digits of a number, at least `width` of them. -/
def hexDigits (width n : Nat) : List Char :=
  let digits := Nat.toDigits 16 n
  List.replicate (width - digits.length) '0' ++ digits

/-- The quote to put around the characters. -/
def quoteFor (cs : List Char) : Char :=
  if cs.contains singleQuote && !cs.contains doubleQuote then doubleQuote else singleQuote

/-- The numeric escape of a code point: two, four or eight hexadecimal digits. -/
def codeEscape (n : Nat) : List Char :=
  if n < 0x100 then '\\' :: 'x' :: hexDigits 2 n
  else if n < 0x10000 then '\\' :: 'u' :: hexDigits 4 n
  else '\\' :: 'U' :: hexDigits 8 n

/-- A character between quotes; `plain` says which characters stand for themselves. -/
def quoteChar (plain : Char → Bool) (quote c : Char) : List Char :=
  if c == quote || c == '\\' then ['\\', c]
  else if c == '\t' then ['\\', 't']
  else if c == '\n' then ['\\', 'n']
  else if c == '\r' then ['\\', 'r']
  else if plain c then [c]
  else codeEscape c.toNat

/-- The characters in quotes. -/
def quoteChars (plain : Char → Bool) (cs : List Char) : List Char :=
  let quote := quoteFor cs
  quote :: cs.flatMap (quoteChar plain quote) ++ [quote]

/-- The text in quotes. -/
def quoted (s : String) : String :=
  String.ofList (quoteChars isPrintable s.toList)

/-- The bytes in quotes: printable ASCII stands for itself. -/
def quotedBytes (bytes : List UInt8) : String :=
  String.ofList (quoteChars (fun c => 0x20 ≤ c.toNat && c.toNat < 0x7F)
    (bytes.map fun b => Char.ofNat b.toNat))

end StreamTemplate.Text
