import StreamTemplate.Markup.Trim

/-!
# Finding places in the template as written

The scan works on the trimmed text. Where a character of that text stands in the template as written
is looked up in two tables: the offsets of the characters that trimming keeps, and the offsets at
which lines start. Both are computed from the template as written; a look-up outside a table
fails.
-/

namespace StreamTemplate.Markup

/-- Where a pattern is found, from left to right and without overlap: the offsets at which each
find starts and stops. `matchAt` tells how much of some characters the pattern takes when it is
tried at the first of them; `skip` characters still belong to the last find. -/
def findAll (matchAt : List Char → Option Nat) (pos skip : Nat) : List Char → List (Nat × Nat)
  | [] => []
  | c :: rest =>
    match skip with
    | skip + 1 => findAll matchAt (pos + 1) skip rest
    | 0 =>
      match matchAt (c :: rest) with
      | some count => (pos, pos + count) :: findAll matchAt (pos + 1) (count - 1) rest
      | none => findAll matchAt (pos + 1) 0 rest

/-- The pattern of any number of spaces and tabs and `<%_` behind them. -/
def blanksAndOpen (cs : List Char) : Option Nat :=
  if startsTrimOpen id (cs.dropWhile Text.isHorizontal) then
    some ((cs.takeWhile Text.isHorizontal).length + 3)
  else none

/-- The pattern of `_%>` and any number of spaces and tabs behind it. -/
def closeAndBlanks (cs : List Char) : Option Nat :=
  if startsTrimClose id cs then some (3 + ((cs.drop 3).takeWhile Text.isHorizontal).length)
  else none

/-- The offsets of the white space of trimming tags. -/
def removedOffsets (cs : List Char) : List Nat :=
  ((findAll blanksAndOpen 0 0 cs).flatMap fun found =>
      List.range' found.1 (found.2 - 3 - found.1)) ++
    (findAll closeAndBlanks 0 0 cs).flatMap fun found =>
      List.range' (found.1 + 3) (found.2 - (found.1 + 3))

/-- The offset, in the template as written, of each character that trimming keeps. -/
def keptOffsets (cs : List Char) : List Nat :=
  (List.range cs.length).filter (· ∉ removedOffsets cs)

/-- The offsets at which lines start; a line ends with a line feed. -/
def lineStarts (cs : List Char) : List Nat :=
  0 :: (cs.zipIdx.filter (·.1 = '\n')).map (·.2 + 1)

/-- How many entries of an ascending table are no greater than `x`. -/
def bisectRight (table : List Nat) (x : Nat) : Nat :=
  (table.takeWhile (· ≤ x)).length

/-- The line, from one, and the column, from zero, of the `n`-th character of the trimmed text. -/
def positionAt (source : String) (n : Nat) : Option (Nat × Nat) := do
  let offset ← (keptOffsets source.toList)[n]?
  let line := bisectRight (lineStarts source.toList) offset
  let start ← (lineStarts source.toList)[line - 1]?
  return (line, offset - start)

end StreamTemplate.Markup
