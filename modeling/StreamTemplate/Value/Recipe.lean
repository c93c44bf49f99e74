import StreamTemplate.Value.Fault

/-!
# Recipes

Descriptions of values, from which they can be built afresh any number of times: the results of data
functions, the steps of scripted coroutines, the data of a render. A gate is a future known by name.
-/

namespace StreamTemplate

/-- The parts of a render context that a data function can ask for. -/
inductive ContextField where
  | line
  | location
  | source
  | templateName
  | filename
  deriving DecidableEq, Repr

mutual

/-- The description of a value. -/
inductive Recipe where
  | none
  | bool (b : Bool)
  | int (n : Int)
  | float (x : Float)
  | text (s : String)
  | binary (kind : BinaryKind) (data : List UInt8)
  | byteArray (data : List UInt8)
  | list (items : List Recipe)
  | tuple (items : List Recipe)
  | dict (entries : List (Recipe × Recipe))
  | coroutine (body : List Step)
  | asyncGenerator (body : List Step)
  /-- A coroutine already scheduled. -/
  | task (body : List Step)
  /-- The future of a gate. -/
  | gate (name : String)
  | awaitable (result : Recipe)
  | asyncItems (items : List Item)
  | asyncBoth (result : Recipe) (items : List Item)
  | badAsyncIterable (fault : Option FaultRecipe)
  | generator (items : List Item)
  | object (attrs : List (String × Recipe))
  | unprintable (fault : FaultRecipe)
  | function (script : FunctionScript)
  /-- A value built before, by name. -/
  | shared (name : String)

/-- An item that an iterator produces, or the fault it raises in its place. -/
inductive Item where
  | value (v : Recipe)
  | fault (f : FaultRecipe)

/-- The description of a fault: its class and arguments. -/
inductive FaultRecipe where
  | mk (cls : FaultClass) (args : List Recipe)

/-- What a data function does, in this order: it notes a text in the log, raises a fault, returns a
part of the render context, tells whether there is one, or returns a value. -/
inductive FunctionScript where
  | mk (log : Option String) (raises : Option FaultRecipe) (context : Option ContextField)
    (hasContext : Bool) (returns : Option Recipe)

/-- A step of a scripted coroutine or generator. Pushing, closing and aborting act on the current
stream. -/
inductive Step where
  | log (text : String)
  | wait (gate : String)
  | sleep (turns : Nat)
  | push (chunk : Recipe)
  | close (fault : Option FaultRecipe)
  | abort (fault : Option FaultRecipe)
  | raise (fault : FaultRecipe)
  | return (result : Recipe)
  | returnGate (gate : String)
  | yield (item : Recipe)
  | yieldGate (gate : String)

end

instance : Inhabited Recipe := ⟨.none⟩

instance : Inhabited Item := ⟨.value .none⟩

instance : Inhabited FaultRecipe := ⟨.mk .exception []⟩

instance : Inhabited Step := ⟨.sleep 0⟩

end StreamTemplate
