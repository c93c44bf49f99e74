/-!
# Values

The values that tags compute with and that streams carry. Numbers, texts, byte strings, tuples and
ranges are complete in themselves. Everything that can change is a reference: data lives in the
cells of a heap, while coroutines, asynchronous generators, futures and tasks live in the event
loop. Some values that are complete in themselves still have an identity, which tells one of two
equal ones from the other.
-/

namespace StreamTemplate

/-- Which one a value is among those that are alike. -/
inductive Identity where
  /-- The one written out in the code of the tag at a place of the template. -/
  | constant (line col : Nat)
  /-- The one made while code ran that has this number. -/
  | made (number : Nat)
  deriving DecidableEq, Repr

/-- The kinds of byte strings that cannot be changed. -/
inductive BinaryKind where
  | bytes
  | memoryView
  deriving DecidableEq, Repr

/-- The kinds of things that live in cells. -/
inductive CellKind where
  | list
  | dict
  | dictKeys
  | dictValues
  | dictItems
  /-- A byte string that can be changed. -/
  | byteArray
  /-- An object with attributes. -/
  | object
  /-- An object that cannot be turned into text. -/
  | unprintable
  | function
  /-- An object that can only be awaited. -/
  | awaitable
  /-- An asynchronous iterator. -/
  | asyncItems
  /-- An asynchronous iterator that can be awaited too. -/
  | asyncBoth
  /-- An object that claims to be asynchronously iterable and is not. -/
  | badAsyncIterable
  /-- A plain generator. -/
  | generator
  deriving DecidableEq, Repr

/-- The kinds of things that live in the event loop. -/
inductive ProcessKind where
  | coroutine
  | asyncGenerator
  | future
  | task
  deriving DecidableEq, Repr

/-- The methods of built-in values. -/
inductive Method where
  | append
  | pop
  | upper
  | join
  | items
  | keys
  | values
  deriving DecidableEq, Repr

/-- The name of a method. -/
def Method.label : Method → String
  | append => "append"
  | pop => "pop"
  | upper => "upper"
  | join => "join"
  | items => "items"
  | keys => "keys"
  | values => "values"

/-- What needs no definition. -/
inductive Builtin where
  | function (name : String)
  | type (name : String)
  /-- A method that is still to be given the value it belongs to. -/
  | method (type : String) (method : Method)
  /-- Something of which no more is known than its type and its text. -/
  | thing (type text : String)
  deriving DecidableEq, Repr

/-- A value. -/
inductive Value where
  | none
  | bool (b : Bool)
  | int (n : Int)
  | float (id : Identity) (x : Float)
  | text (s : String)
  | binary (kind : BinaryKind) (data : List UInt8)
  | tuple (id : Identity) (items : List Value)
  | range (id : Identity) (start stop step : Int)
  | builtin (b : Builtin)
  | method (id : Identity) (receiver : Value) (method : Method)
  /-- A type of containers, with types of members. -/
  | typeForm (id : Identity) (type : String) (members : List Value)
  | cell (kind : CellKind) (id : Nat)
  | process (kind : ProcessKind) (id : Nat)

instance : Inhabited Value := ⟨.none⟩

namespace Value

/-- The name of a value's type. -/
def typeName : Value → String
  | none => "NoneType"
  | bool _ => "bool"
  | int _ => "int"
  | float .. => "float"
  | text _ => "str"
  | binary .bytes _ => "bytes"
  | binary .memoryView _ => "memoryview"
  | tuple .. => "tuple"
  | range .. => "range"
  | builtin (.function _) => "builtin_function_or_method"
  | builtin (.type _) => "type"
  | builtin (.method ..) => "method_descriptor"
  | builtin (.thing type _) => type
  | method .. => "builtin_function_or_method"
  | typeForm .. => "types.GenericAlias"
  | cell .list _ => "list"
  | cell .dict _ => "dict"
  | cell .dictKeys _ => "dict_keys"
  | cell .dictValues _ => "dict_values"
  | cell .dictItems _ => "dict_items"
  | cell .byteArray _ => "bytearray"
  | cell .object _ => "Obj"
  | cell .unprintable _ => "BadStr"
  | cell .function _ => "function"
  | cell .awaitable _ => "Awaitable"
  | cell .asyncItems _ | cell .asyncBoth _ => "AsyncIter"
  | cell .badAsyncIterable _ => "BadAiter"
  | cell .generator _ => "generator"
  | process .coroutine _ => "coroutine"
  | process .asyncGenerator _ => "async_generator"
  | process .future _ => "_asyncio.Future"
  | process .task _ => "_asyncio.Task"

/-- The name of a value's type without the module that it is from. -/
def className : Value → String
  | typeForm .. => "GenericAlias"
  | process .future _ => "Future"
  | process .task _ => "Task"
  | v => v.typeName

/-- Texts and byte strings, which a stream emits as they are. -/
def isLiteral : Value → Bool
  | text _ | binary .. | cell .byteArray _ => true
  | _ => false

/-- Lists and tuples, which a stream takes apart. -/
def isBatch : Value → Bool
  | tuple .. | cell .list _ => true
  | _ => false

/-- Values that could be thought of as having members: containers, and instances of classes that
could be made to act as such. -/
def hasMembers : Value → Bool
  | text _ | binary .. | tuple .. | range .. => true
  | cell .function _ | cell .generator _ => false
  | cell .. => true
  | _ => false

/-- Values that offer asynchronous iteration. -/
def isAsyncIterable : Value → Bool
  | process .asyncGenerator _ | cell .asyncItems _ | cell .asyncBoth _ |
    cell .badAsyncIterable _ => true
  | _ => false

/-- Values that can be awaited. -/
def isAwaitable : Value → Bool
  | process .coroutine _ | process .future _ | process .task _ | cell .awaitable _ |
    cell .asyncBoth _ => true
  | _ => false

end Value

end StreamTemplate
