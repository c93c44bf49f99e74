import StreamTemplate.Number.Rounding
import StreamTemplate.Text.Similarity
import StreamTemplate.Value.Show

/-!
# Comparing values

Truth, equality, identity and order of values, and which values can be keys. Numbers of all types
compare by what they stand for, containers member by member. Values without an order between them
cannot be ranked at all.
-/

namespace StreamTemplate

/-- Whether the members of a range go on at `next`. -/
def rangeHolds (next stop step : Int) : Bool :=
  if step > 0 then next < stop else stop < next

/-- The number of members of a range. -/
def rangeSize (start stop step : Int) : Nat :=
  if !rangeHolds start stop step then 0
  else ((stop - start).natAbs + step.natAbs - 1) / step.natAbs

/-- Whether an integer is a member of a range. -/
def rangeContains (start stop step n : Int) : Bool :=
  let last := start + step * (rangeSize start stop step)
  let inside := if step > 0 then start ≤ n && n < last else last < n && n ≤ start
  inside && (n - start) % step == 0

/-- Whether an integer can be an index or a size of a sequence. -/
def fitsIndex (n : Int) : Bool :=
  -(Number.twoTo 63) ≤ n && n < Number.twoTo 63

/-- The most members that a value can be given at once. -/
def memberLimit : Nat :=
  Number.twoTo 32

/-- The members of a range. -/
def rangeMembers (start stop step : Int) : List Value :=
  (List.range (rangeSize start stop step)).map fun i : Nat => .int (start + i * step)

/-- A number in a common form: truth values count as zero and one. -/
inductive Numeric where
  | int (n : Int)
  | float (x : Float)

namespace Value

/-- A value as a number. -/
def numeric? : Value → Option Numeric
  | bool b => some (.int (if b then 1 else 0))
  | int n => some (.int n)
  | float _ x => some (.float x)
  | _ => Option.none

/-- A value as an integer, as an index is. -/
def integer? : Value → Option Int
  | bool b => some (if b then 1 else 0)
  | int n => some n
  | _ => Option.none

end Value

/-- How two numbers compare; not at all if one of them is no number. -/
def Numeric.compare : Numeric → Numeric → Option Ordering
  | .int a, .int b => some (Ord.compare a b)
  | .float x, .float y =>
    if x < y then some .lt else if x > y then some .gt else if x == y then some .eq else none
  | .float x, .int n =>
    match Number.parts x with
    | .notANumber => none
    | .infinite negative => some (if negative then .lt else .gt)
    | .finite negative mantissa exponent => some (Number.compareInt negative mantissa exponent n)
  | .int n, .float x =>
    match Number.parts x with
    | .notANumber => none
    | .infinite negative => some (if negative then .gt else .lt)
    | .finite negative mantissa exponent =>
      some (Number.compareInt negative mantissa exponent n).swap

mutual

/-- What keeps a value from being a key: the type of a part that can change. -/
def Value.changeable? : Value → Option String
  | .cell .list _ => some "list"
  | .cell .dict _ => some "dict"
  | .cell .dictKeys _ => some "dict_keys"
  | .cell .dictItems _ => some "dict_items"
  | .cell .byteArray _ => some "bytearray"
  | .tuple _ items | .typeForm _ _ items => firstChangeable? items
  | _ => .none

/-- The first of several values that keeps them from being a key. -/
def firstChangeable? : List Value → Option String
  | [] => none
  | v :: rest =>
    match v.changeable? with
    | some type => some type
    | none => firstChangeable? rest

end

namespace Heap

/-- Whether a value counts as true: numbers other than zero, and containers that are not empty. -/
def truth (heap : Heap) : Value → Bool
  | .none => false
  | .bool b => b
  | .int n => n ≠ 0
  | .float _ x => !(x == 0.0)
  | .text s => s ≠ ""
  | .binary _ data => !data.isEmpty
  | .tuple _ items => !items.isEmpty
  | .range _ start stop step => rangeHolds start stop step
  | .cell .list id => !(heap.list id).isEmpty
  | .cell .byteArray id => !(heap.byteArray id).isEmpty
  | .cell .dict id => (heap.dict id).used ≠ 0
  | .cell .dictKeys id | .cell .dictValues id | .cell .dictItems id =>
    (heap.dict (heap.viewed id)).used ≠ 0
  | _ => true

/-- Whether two members are the same or equal. -/
def equalMember (equal : Value → Value → Except Fault Bool) (a b : Value) : Except Fault Bool :=
  if a.same b then .ok true else equal a b

/-- Whether two sequences agree member by member. -/
def equalMembers (equal : Value → Value → Except Fault Bool) :
    List Value → List Value → Except Fault Bool
  | [], [] => .ok true
  | a :: as, b :: bs => do
    if ← equalMember equal a b then equalMembers equal as bs else return false
  | _, _ => .ok false

/-- The entry with a key. -/
def findEntry? (equal : Value → Value → Except Fault Bool) (key : Value) (entries : List Entry) :
    Except Fault (Option Entry) :=
  entries.findM? fun (other, _) => equalMember equal other key

/-- Whether two dictionaries have equal values under equal keys. -/
def equalEntries (equal : Value → Value → Except Fault Bool) (as bs : List Entry) :
    Except Fault Bool := do
  if as.length ≠ bs.length then return false
  as.allM fun (key, value) => do
    match ← findEntry? equal key bs with
    | some (_, other) => equalMember equal value other
    | none => return false

/-! ### Views of dictionaries as sets -/

/-- What a view of the keys or the items of a dictionary shows: whether it shows the items, and the
entries. -/
def setView? (heap : Heap) : Value → Option (Bool × List Entry)
  | .cell .dictKeys id => some (false, (heap.dict (heap.viewed id)).entries)
  | .cell .dictItems id => some (true, (heap.dict (heap.viewed id)).entries)
  | _ => none

/-- Whether a view shows a value. A value that cannot be looked up is an error. -/
def viewShows (equal : Value → Value → Except Fault Bool) (view : Bool × List Entry) (v : Value) :
    Except Fault Bool :=
  let lookUp (key : Value) : Except Fault (Option Entry) :=
    match key.changeable? with
    | some type => .error (ValueFault.unhashable type).toFault
    | none => findEntry? equal key view.2
  if view.1 then
    match v with
    | .tuple _ [key, value] => do
      match ← lookUp key with
      | some (_, other) => equalMember equal other value
      | none => return false
    | _ => .ok false
  else Option.isSome <$> lookUp v

/-- The members that a view shows. -/
def viewMembers (view : Bool × List Entry) : List Value :=
  view.2.map fun (key, value) =>
    if view.1 then .tuple (.constant 0 0) [key, value] else key

/-- Whether a view shows all that another one shows. -/
def viewWithin (equal : Value → Value → Except Fault Bool) (part whole : Bool × List Entry) :
    Except Fault Bool :=
  (viewMembers part).allM (viewShows equal whole)

/-! ### Equality -/

/-- Equality up to a depth. Whatever is the same is equal, even what does not equal itself. -/
def equalAt (heap : Heap) (depth : Nat) (a b : Value) : Except Fault Bool :=
  match depth with
  | 0 => .error ValueFault.tooDeepToCompare.toFault
  | depth + 1 =>
    match a.numeric?, b.numeric? with
    | some m, some n => .ok (m.compare n == some .eq)
    | _, _ =>
      match heap.bytes? a, heap.bytes? b, heap.setView? a, heap.setView? b with
      | some x, some y, _, _ => .ok (x == y)
      | _, _, some x, some y =>
        if x.2.length ≠ y.2.length then .ok false else viewWithin (equalAt heap depth) x y
      | _, _, _, _ =>
        match a, b with
        | .tuple _ xs, .tuple _ ys => equalMembers (equalAt heap depth) xs ys
        | .typeForm _ x xs, .typeForm _ y ys =>
          if x = y then equalMembers (equalAt heap depth) xs ys else .ok false
        | .cell .list i, .cell .list j =>
          equalMembers (equalAt heap depth) (heap.list i).toList (heap.list j).toList
        | .cell .dict i, .cell .dict j =>
          equalEntries (equalAt heap depth) (heap.dict i).entries (heap.dict j).entries
        | .range _ a b c, .range _ d e f =>
          let size := rangeSize a b c
          .ok (size == rangeSize d e f && (size == 0 || (a == d && (size == 1 || c == f))))
        | .method _ x method, .method _ y other => .ok (x.same y && method == other)
        | a, b => .ok (a.same b)

/-- Whether two values are equal. -/
def equal (heap : Heap) (a b : Value) : Except Fault Bool :=
  heap.equalAt nestingLimit a b

/-- Whether two values are the same or equal, as when one is looked for among others. -/
def matching (heap : Heap) (a b : Value) : Except Fault Bool :=
  equalMember heap.equal a b

end Heap

/-- The four ways to ask for an order. -/
inductive Ranking where
  | less
  | lessOrEqual
  | greater
  | greaterOrEqual
  deriving DecidableEq, Repr

namespace Ranking

/-- How a ranking is written. -/
def symbol : Ranking → String
  | less => "<"
  | lessOrEqual => "<="
  | greater => ">"
  | greaterOrEqual => ">="

/-- Whether an order of two things answers a ranking. -/
def accepts : Ranking → Ordering → Bool
  | less, o => o == .lt
  | lessOrEqual, o => o != .gt
  | greater, o => o == .gt
  | greaterOrEqual, o => o != .lt

end Ranking

/-- The order of two byte strings. -/
def compareBytes : List UInt8 → List UInt8 → Ordering
  | [], [] => .eq
  | [], _ => .lt
  | _, [] => .gt
  | a :: as, b :: bs => if a < b then .lt else if a > b then .gt else compareBytes as bs

/-- The order of two texts, by code point. -/
def compareTexts (a b : String) : Ordering :=
  if a == b then .eq else if Text.textLt a b then .lt else .gt

namespace Heap

/-- Ranks two sequences by the first pair of members that differ, else by length. -/
def rankMembers (equal : Value → Value → Except Fault Bool)
    (rank : Value → Value → Except Fault Bool) (ranking : Ranking) :
    List Value → List Value → Except Fault Bool
  | [], [] => .ok (ranking.accepts .eq)
  | [], _ => .ok (ranking.accepts .lt)
  | _, [] => .ok (ranking.accepts .gt)
  | a :: as, b :: bs => do
    if ← equalMember equal a b then rankMembers equal rank ranking as bs else rank a b

/-- The fault of two values without an order between them. -/
def unranked (ranking : Ranking) (a b : Value) : Except Fault Bool :=
  .error (ValueFault.compare ranking.symbol a.typeName b.typeName).toFault

/-- Ranks two views as sets: one is less than another if that shows all it shows, and more. -/
def rankViews (equal : Value → Value → Except Fault Bool) (ranking : Ranking)
    (x y : Bool × List Entry) : Except Fault Bool :=
  if !ranking.accepts (Ord.compare x.2.length y.2.length) then .ok false
  else match ranking with
    | .less | .lessOrEqual => viewWithin equal x y
    | .greater | .greaterOrEqual => viewWithin equal y x

/-- Whether a byte string of a kind can be ranked with any other. -/
def ranksBytes : Value → Bool
  | .cell .byteArray _ => true
  | _ => false

/-- Ranks two values, up to a depth. -/
def rankAt (heap : Heap) (ranking : Ranking) (depth : Nat) (a b : Value) : Except Fault Bool :=
  match depth with
  | 0 => .error ValueFault.tooDeepToCompare.toFault
  | depth + 1 =>
    match a.numeric?, b.numeric? with
    | some m, some n => .ok ((m.compare n).any ranking.accepts)
    | _, _ =>
      match heap.bytes? a, heap.bytes? b, heap.setView? a, heap.setView? b with
      | some x, some y, _, _ =>
        let isView := fun | Value.binary .memoryView _ => true | _ => false
        if ranksBytes a || ranksBytes b || !(isView a || isView b) then
          .ok (ranking.accepts (compareBytes x y))
        else unranked ranking a b
      | _, _, some x, some y => rankViews heap.equal ranking x y
      | _, _, _, _ =>
        match a, b with
        | .text x, .text y => .ok (ranking.accepts (compareTexts x y))
        | .tuple _ xs, .tuple _ ys =>
          rankMembers heap.equal (rankAt heap ranking depth) ranking xs ys
        | .cell .list i, .cell .list j =>
          rankMembers heap.equal (rankAt heap ranking depth) ranking (heap.list i).toList
            (heap.list j).toList
        | a, b => unranked ranking a b

/-- Ranks two values. -/
def rank (heap : Heap) (ranking : Ranking) (a b : Value) : Except Fault Bool :=
  heap.rankAt ranking nestingLimit a b

end Heap

namespace Work

/-- Whether a value counts as true. -/
def truth (v : Value) : Work Bool := do
  return (← heap).truth v

/-- Whether two values are equal. -/
def equal (a b : Value) : Work Bool := do
  liftExcept ((← heap).equal a b)

/-- Whether two values are the same or equal. -/
def matching (a b : Value) : Work Bool := do
  liftExcept ((← heap).matching a b)

end Work

end StreamTemplate
