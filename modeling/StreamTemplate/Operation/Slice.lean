import StreamTemplate.Value.Compare

/-!
# Slices

A slice picks the members of a sequence from one place up to another, in steps. Negative indices
count from the end. Indices of a slice may lie outside the sequence; the index of a single member
may not.
-/

namespace StreamTemplate

/-- The parts of a slice. -/
structure Slice where
  start : Option Int
  stop : Option Int
  step : Int

/-- The place of an index in a sequence; nothing if it lies outside. -/
def placeOf? (size : Nat) (index : Int) : Option Nat :=
  let place := if index < 0 then index + size else index
  if 0 ≤ place ∧ place < size then some place.toNat else none

/-- An end of a slice, moved into a sequence gone through in steps of the given sign. -/
def clampPlace (size : Nat) (backwards : Bool) (index : Int) : Int :=
  if index < 0 then
    if index + size < 0 then if backwards then -1 else 0 else index + size
  else if index ≥ size then if backwards then (size : Int) - 1 else size
  else index

namespace Slice

/-- Where a slice of a sequence begins and ends. -/
def bounds (s : Slice) (size : Nat) : Int × Int :=
  let backwards := s.step < 0
  let start := match s.start with
    | none => if backwards then (size : Int) - 1 else 0
    | some i => clampPlace size backwards i
  let stop := match s.stop with
    | none => if backwards then -1 else (size : Int)
    | some i => clampPlace size backwards i
  (start, stop)

/-- The places that a slice takes up in a sequence, in its order. -/
def places (s : Slice) (size : Nat) : List Nat :=
  let (start, stop) := s.bounds size
  (List.range (rangeSize start stop s.step)).map fun i : Nat => (start + i * s.step).toNat

/-- Whether a slice is the whole of a sequence, in order. -/
def isWhole (s : Slice) (size : Nat) : Bool :=
  s.step = 1 && s.bounds size == (0, (size : Int))

section

variable {α : Type}

/-- The members of a sequence that a slice picks. -/
def pick (s : Slice) (items : Array α) : List α :=
  (s.places items.size).filterMap (items[·]?)

/-- A sequence with new members in the place of those that a slice without gaps picks. -/
def splice (s : Slice) (given : List α) (items : Array α) : Array α :=
  let (start, stop) := s.bounds items.size
  let stop := max start stop
  items.extract 0 start.toNat ++ given.toArray ++ items.extract stop.toNat items.size

/-- A sequence with new members, one in the place of each that a slice picks. -/
def overwrite (s : Slice) (given : List α) (items : Array α) : Array α :=
  ((s.places items.size).zip given).foldl (fun items (place, a) => items.setIfInBounds place a)
    items

/-- A sequence without the members that a slice picks. -/
def remove (s : Slice) (items : Array α) : Array α :=
  let (start, stop) := s.bounds items.size
  (items.toList.zipIdx.filterMap fun (a, place) =>
    if rangeContains start stop s.step place then none else some a).toArray

end

end Slice

end StreamTemplate
