import StreamTemplate.Text.Decomposition

/-!
# The normal form of identifiers

Two spellings of an identifier are the same if they have the same normal form: every character is
taken apart as far as possible, marks are put in the order of their classes, and letters are put
together with the marks behind them.
-/

namespace StreamTemplate.Text

/-- The class of a mark; zero for any other character. -/
def markClass (n : Nat) : Nat :=
  match markClasses.find? fun (lo, hi, _) => lo ≤ n && n ≤ hi with
  | some (_, _, k) => k
  | none => 0

/-- The entry of a character in a table. -/
def runOf? (table : Array DecompositionRun) (n : Nat) : Option (List Nat) :=
  (table.find? fun r => r.first ≤ n && n < r.first + r.count).map fun r =>
    r.parts.dropLast ++ (r.parts.getLast?.map fun last => last + (n - r.first) * r.step).toList

/-! ### Syllables

The syllables of Hangul are made of a leading letter, a vowel, and perhaps a trailing letter. -/

/-- The first syllable, the first leading letter, the first vowel, and the character in front of the
first trailing letter. -/
def syllableBase : Nat × Nat × Nat × Nat :=
  (0xAC00, 0x1100, 0x1161, 0x11A7)

/-- The letters of a syllable. -/
def syllableParts? (n : Nat) : Option (List Nat) :=
  let (syllable, leading, vowel, trailing) := syllableBase
  if syllable ≤ n && n < syllable + 19 * 21 * 28 then
    let place := n - syllable
    let parts := [leading + place / (21 * 28), vowel + place / 28 % 21]
    some (if place % 28 = 0 then parts else parts ++ [trailing + place % 28])
  else none

/-- The syllable made of two letters, or of a syllable and a trailing letter. -/
def syllableOf? (a b : Nat) : Option Nat :=
  let (syllable, leading, vowel, trailing) := syllableBase
  if leading ≤ a && a < leading + 19 && vowel ≤ b && b < vowel + 21 then
    some (syllable + ((a - leading) * 21 + (b - vowel)) * 28)
  else if syllable ≤ a && a < syllable + 19 * 21 * 28 && (a - syllable) % 28 = 0 &&
      trailing < b && b < trailing + 28 then
    some (a + (b - trailing))
  else none

/-! ### The three steps -/

/-- What a character is made of, taken apart in at most `depth` steps. -/
def takeApart : Nat → Nat → List Nat
  | 0, n => [n]
  | depth + 1, n =>
    match syllableParts? n with
    | some parts => parts
    | none =>
      match runOf? composites n with
      | some parts => parts.flatMap (takeApart depth)
      | none => (runOf? variants n).getD [n]

/-- Puts a character behind others, the last of which comes first; a mark goes in front of marks of
higher classes. -/
def putInOrder (n : Nat) : List Nat → List Nat
  | [] => [n]
  | last :: before =>
    if markClass n ≠ 0 && markClass n < markClass last then last :: putInOrder n before
    else n :: last :: before

/-- The characters with their marks in the order of their classes. -/
def orderMarks (ns : List Nat) : List Nat :=
  (ns.foldl (fun before n => putInOrder n before) []).reverse

/-- The character made of two. -/
def putTogether? (a b : Nat) : Option Nat :=
  match syllableOf? a b with
  | some n => some n
  | none => (composites.find? fun r => r.parts == [a, b]).map (·.first)

/-- Puts a letter together with the marks behind it. `skipped` are the marks that it could not be
put together with, the last one first; a mark behind one of the same class is out of reach. -/
def composeFrom (letter : Nat) (skipped : List Nat) : List Nat → List Nat
  | [] => letter :: skipped.reverse
  | n :: rest =>
    let reachable := skipped.head?.all fun last => markClass last < markClass n
    match if reachable then putTogether? letter n else none with
    | some whole => composeFrom whole skipped rest
    | none =>
      if markClass n = 0 then (letter :: skipped.reverse) ++ composeFrom n [] rest
      else composeFrom letter (n :: skipped) rest

/-- The characters with letters put together with their marks. -/
def compose : List Nat → List Nat
  | [] => []
  | n :: rest => if markClass n = 0 then composeFrom n [] rest else n :: compose rest

/-- The normal form of an identifier. -/
def normalForm (s : String) : String :=
  if s.toList.all (·.toNat < 0x80) then s
  else
    let apart := s.toList.flatMap fun c => takeApart 8 c.toNat
    String.ofList ((compose (orderMarks apart)).map Char.ofNat)

end StreamTemplate.Text
