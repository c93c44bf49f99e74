/-!
# Blank characters

The characters that count as white space at the ends of a tag's code, and the operations that
remove them. The class is Unicode's: separators, and the control characters that move the carriage.
-/

namespace StreamTemplate.Text

/-- White space: the controls from tab to carriage return, the four information separators, and
every space separator, line separator and paragraph separator. -/
def isBlank (c : Char) : Bool :=
  let n := c.toNat
  (0x09 ≤ n && n ≤ 0x0D) || (0x1C ≤ n && n ≤ 0x20) || n == 0x85 || n == 0xA0 || n == 0x1680 ||
    (0x2000 ≤ n && n ≤ 0x200A) || n == 0x2028 || n == 0x2029 || n == 0x202F || n == 0x205F ||
    n == 0x3000

/-- The characters without the white space in front of them. -/
def trimStart (cs : List Char) : List Char :=
  cs.dropWhile isBlank

/-- The characters without the white space behind them. -/
def trimEnd (cs : List Char) : List Char :=
  (cs.reverse.dropWhile isBlank).reverse

/-- The text without white space at either end. -/
def trim (s : String) : String :=
  String.ofList (trimEnd (trimStart s.toList))

/-- A space or a tab: the white space that separates things within a line. -/
def isHorizontal (c : Char) : Bool :=
  c == ' ' || c == '\t'

/-- The longest common beginning of two texts. -/
def commonStart : List Char → List Char → List Char
  | a :: as, b :: bs => if a = b then a :: commonStart as bs else []
  | _, _ => []

/-- `n` copies of a character. -/
def replicate (n : Nat) (c : Char) : String :=
  String.ofList (List.replicate n c)

/-- The text, with spaces in front of it up to the given width. -/
def alignRight (width : Nat) (s : String) : String :=
  replicate (width - s.length) ' ' ++ s

end StreamTemplate.Text
