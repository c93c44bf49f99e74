import StreamTemplate.Operation.Known

/-!
# Names in tags

The names that the code in tags sees, each with its value. All tags of a render share one scope, so
what one tag assigns the next ones see.
-/

namespace StreamTemplate

/-- Names with their values; no name occurs twice. -/
structure Scope where
  entries : List (String × Value) := []

namespace Scope

/-- The value of a name. -/
def find? (s : Scope) (name : String) : Option Value :=
  s.entries.lookup name

/-- Gives a name a value. -/
def set (s : Scope) (name : String) (v : Value) : Scope :=
  ⟨(name, v) :: s.entries.filter (·.1 ≠ name)⟩

/-- Takes a name away. -/
def erase (s : Scope) (name : String) : Scope :=
  ⟨s.entries.filter (·.1 ≠ name)⟩

/-- Gives several names their values, one after the other. -/
def setAll (s : Scope) (entries : List (String × Value)) : Scope :=
  entries.foldl (fun s (name, v) => s.set name v) s

/-- The name of what the names that a scope lacks are looked up in. -/
def fallbackName : String :=
  "__builtins__"

/-- The scope that every render begins with: what it lacks are the known names. -/
def initial : Scope :=
  ⟨[(fallbackName, .builtin .module)]⟩

end Scope

/-- The name under which the code in tags sees the current item of a loop between tags. -/
def loopItem : String :=
  "__strand_loop_item__"

end StreamTemplate
