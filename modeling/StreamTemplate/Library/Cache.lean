/-!
# Caches of what was used last

A cache holds no more entries than it has room for. An entry that is used becomes the newest one,
and when there are too many the oldest ones go.
-/

namespace StreamTemplate

/-- A cache with room for a number of entries, the oldest first. -/
structure Cache (κ α : Type) where
  capacity : Nat
  entries : List (κ × α) := []

namespace Cache

variable {κ α : Type} [BEq κ]

/-- The number of entries. -/
def size (c : Cache κ α) : Nat :=
  c.entries.length

/-- The keys, the oldest first. -/
def keys (c : Cache κ α) : List κ :=
  c.entries.map (·.1)

/-- The entry of a key. -/
def find? (c : Cache κ α) (key : κ) : Option α :=
  c.entries.lookup key

/-- Makes an entry the newest one of its key, as far as there is room. -/
def insert (c : Cache κ α) (key : κ) (a : α) : Cache κ α :=
  let entries := c.entries.filter (fun e => !(e.1 == key)) ++ [(key, a)]
  { c with entries := entries.drop (entries.length - c.capacity) }

/-- Removes all entries. -/
def clear (c : Cache κ α) : Cache κ α :=
  { c with entries := [] }

end Cache

end StreamTemplate
