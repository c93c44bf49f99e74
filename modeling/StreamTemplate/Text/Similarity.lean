/-!
# Similarity of texts

How alike two texts are, as the share of their characters that lie in common blocks: the longest
common block, then the longest ones before and after it, and so on. `closest?` finds the candidate
most like a given text. In a text of two hundred characters or more, a character that makes up over
a hundredth of it is too common to start a block.
-/

namespace StreamTemplate.Text

/-- A common block of two texts: where it starts in each, and its length. -/
structure Block where
  left : Nat
  right : Nat
  size : Nat
  deriving Repr

/-- The characters that may start a common block with a text. -/
def starters (b : Array Char) : List Char :=
  let chars := b.toList
  if b.size < 200 then chars.eraseDups
  else chars.eraseDups.filter fun c => chars.count c ≤ b.size / 100 + 1

/-- The lengths of the runs of equal characters that end at place `i` of the left text, one for
each place of the right text in the window; `above` holds those that end at place `i - 1`. -/
def runRow (starts : Char → Bool) (c : Char) (b : Array Char) (lo hi : Nat) (above : Array Nat) :
    Array Nat :=
  (Array.range b.size).map fun j =>
    if lo ≤ j && j < hi && b[j]? == some c && starts c then
      (if j = 0 then 0 else above.getD (j - 1) 0) + 1
    else 0

/-- The longer of the best block so far and the runs that end at place `i`; the earlier one wins
among equals. -/
def betterBlock (i : Nat) (row : Array Nat) (best : Block) : Block :=
  (List.range row.size).foldl (fun best j =>
    let size := row.getD j 0
    if best.size < size then ⟨i + 1 - size, j + 1 - size, size⟩ else best) best

/-- Grows a block to the left while the characters in front of it agree. -/
def growLeft (a b : Array Char) (alo blo : Nat) : Nat → Block → Block
  | 0, block => block
  | fuel + 1, block =>
    if alo < block.left && blo < block.right && a[block.left - 1]? == b[block.right - 1]? then
      growLeft a b alo blo fuel ⟨block.left - 1, block.right - 1, block.size + 1⟩
    else block

/-- Grows a block to the right while the characters behind it agree. -/
def growRight (a b : Array Char) (ahi bhi : Nat) : Nat → Block → Block
  | 0, block => block
  | fuel + 1, block =>
    if block.left + block.size < ahi && block.right + block.size < bhi &&
        a[block.left + block.size]? == b[block.right + block.size]? then
      growRight a b ahi bhi fuel { block with size := block.size + 1 }
    else block

/-- The longest common block inside a window, the earliest one among equals. -/
def longestBlock (starts : Char → Bool) (a b : Array Char) (alo ahi blo bhi : Nat) : Block :=
  let rows := (List.range (ahi - alo)).foldl (fun (row, best) k =>
    let i := alo + k
    let row := match a[i]? with
      | some c => runRow starts c b blo bhi row
      | none => #[]
    (row, betterBlock i row best)) ((#[] : Array Nat), (⟨alo, blo, 0⟩ : Block))
  growRight a b ahi bhi a.size (growLeft a b alo blo a.size rows.2)

/-- The number of characters in common blocks inside a window, found by cutting the window at its
longest block; `fuel` bounds the number of cuts on a path. -/
def commonCount (starts : Char → Bool) (a b : Array Char) : Nat → Nat → Nat → Nat → Nat → Nat
  | 0, _, _, _, _ => 0
  | fuel + 1, alo, ahi, blo, bhi =>
    let block := longestBlock starts a b alo ahi blo bhi
    if block.size = 0 then 0
    else
      block.size + commonCount starts a b fuel alo block.left blo block.right +
        commonCount starts a b fuel (block.left + block.size) ahi (block.right + block.size) bhi

/-- The similarity of two texts as a fraction: twice the common characters over all characters. -/
def similarity (left right : String) : Nat × Nat :=
  let a := left.toList.toArray
  let b := right.toList.toArray
  if a.size + b.size = 0 then (1, 1)
  else
    let starting := starters b
    (2 * commonCount (starting.contains ·) a b (a.size + 1) 0 a.size 0 b.size, a.size + b.size)

/-- The order of texts by their code points. -/
def textLt (s t : String) : Bool :=
  s.toList.map Char.toNat < t.toList.map Char.toNat

/-- Whether a text comes no later than another in the order of texts. -/
def textLe (s t : String) : Bool :=
  !textLt t s

/-- The candidate most similar to `word` among those whose similarity is three fifths or more; of
equally similar ones the last in the order of texts. -/
def closest? (word : String) (candidates : List String) : Option String :=
  (candidates.foldl (fun best candidate =>
    let (n, d) := similarity candidate word
    if 5 * n < 3 * d then best
    else match best with
      | none => some (candidate, n, d)
      | some (text, m, e) =>
        if m * d < n * e || (m * d == n * e && textLt text candidate) then some (candidate, n, d)
        else best) none).map (·.1)

end StreamTemplate.Text
