import StreamTemplate.Number.Power
import StreamTemplate.Value.Basic

/-!
# Dictionaries

A dictionary keeps its entries in the order in which their keys came, in slots that are closed up
from time to time. An entry that is taken away leaves its slot empty until then, and a new key gets
the next slot at the end; so whoever goes through a dictionary that changes meanwhile may meet an
entry twice. When there is no room left the slots are closed up, with room for as many more as suits
the number of entries.
-/

namespace StreamTemplate

/-- An entry of a dictionary. -/
abbrev Entry := Value × Value

/-- A dictionary. -/
structure Dict where
  slots : Array (Option Entry) := #[]
  /-- How many slots can be added before all are closed up. -/
  room : Nat := 0
  /-- Whether all keys so far were texts. -/
  textKeys : Bool := true

namespace Dict

/-- The entries in order. -/
def entries (d : Dict) : List Entry :=
  d.slots.toList.filterMap id

/-- The number of entries. -/
def used (d : Dict) : Nat :=
  d.entries.length

/-- How many slots there are to be for a number of entries: two thirds of a power of two, for three
times as many as there are. -/
def capacityFor (used : Nat) : Nat :=
  let wanted := ((used * 3) ||| 8) - 1
  2 * Number.twoTo ((wanted ||| 7).log2 + 1) / 3

/-- Closes up the slots and makes room. -/
def closeUp (d : Dict) : Dict :=
  { d with
    slots := (d.entries.map some).toArray
    room := capacityFor d.used - d.used }

/-- Makes room for the first entry of all, or for one whose key is no text where all were. -/
def prepare (key : Value) (d : Dict) : Dict :=
  let isText := match key with | .text _ => true | _ => false
  if d.slots.isEmpty then { d with room := capacityFor 0, textKeys := isText }
  else if d.textKeys && !isText then { d.closeUp with textKeys := false }
  else d

/-- Adds an entry with a new key. -/
def add (key value : Value) (d : Dict) : Dict :=
  let d := d.prepare key
  let d := if d.room = 0 then d.closeUp else d
  { d with
    slots := d.slots.push (some (key, value))
    room := d.room - 1 }

/-- Gives the entry in a slot another value. -/
def replace (place : Nat) (value : Value) (d : Dict) : Dict :=
  { d with slots := d.slots.modify place fun slot => slot.map fun (key, _) => (key, value) }

/-- Takes away the entry in a slot. -/
def erase (place : Nat) (d : Dict) : Dict :=
  { d with slots := d.slots.setIfInBounds place none }

/-- The entry in a slot. -/
def entry? (place : Nat) (d : Dict) : Option Entry :=
  d.slots[place]?.join

/-- The first slot from a place on that holds an entry, and the entry; there are `count` slots from
there on. -/
def nextFrom (d : Dict) : Nat → Nat → Option (Nat × Entry)
  | 0, _ => none
  | count + 1, place =>
    match d.entry? place with
    | some entry => some (place, entry)
    | none => nextFrom d count (place + 1)

/-- The first slot from a place on that holds an entry, and the entry. -/
def next? (place : Nat) (d : Dict) : Option (Nat × Entry) :=
  d.nextFrom (d.slots.size - place) place

end Dict

end StreamTemplate
