import StreamTemplate.Value.Basic

/-!
# Known names

The names that need no definition, and the methods of built-in types.
-/

namespace StreamTemplate

/-- The methods of a built-in type. -/
def methodsOf : String → List Method
  | "list" => [.append, .pop]
  | "dict" => [.pop, .items, .keys, .values]
  | "str" | "bytes" => [.upper, .join]
  | "bytearray" => [.append, .pop, .upper, .join]
  | _ => []

/-- The method of a type under a name. -/
def methodOf? (type name : String) : Option Method :=
  (methodsOf type).find? (·.label = name)

namespace Builtin

/-- The names of functions. -/
def functionNames : List String :=
  ["__build_class__", "__import__", "abs", "aiter", "all", "anext", "any", "ascii", "bin",
    "breakpoint", "callable", "chr", "compile", "delattr", "dir", "divmod", "eval", "exec",
    "format", "getattr", "globals", "hasattr", "hash", "hex", "id", "input", "isinstance",
    "issubclass", "iter", "len", "locals", "max", "min", "next", "oct", "open", "ord", "pow",
    "print", "repr", "round", "setattr", "sorted", "sum", "vars"]

/-- The names of types. -/
def typeNames : List String :=
  ["bool", "bytearray", "bytes", "classmethod", "complex", "dict", "enumerate", "filter", "float",
    "frozenset", "int", "list", "map", "memoryview", "object", "property", "range", "reversed",
    "set", "slice", "staticmethod", "str", "super", "tuple", "type", "zip"]

/-- The names of classes of faults. -/
def faultNames : List String :=
  ["ArithmeticError", "AssertionError", "AttributeError", "BaseException", "BaseExceptionGroup",
    "BlockingIOError", "BrokenPipeError", "BufferError", "BytesWarning", "ChildProcessError",
    "ConnectionAbortedError", "ConnectionError", "ConnectionRefusedError", "ConnectionResetError",
    "DeprecationWarning", "EOFError", "EncodingWarning", "Exception", "ExceptionGroup",
    "FileExistsError", "FileNotFoundError", "FloatingPointError", "FutureWarning",
    "GeneratorExit", "ImportError", "ImportWarning", "IndentationError", "IndexError",
    "InterruptedError", "IsADirectoryError", "KeyError", "KeyboardInterrupt", "LookupError",
    "MemoryError", "ModuleNotFoundError", "NameError", "NotADirectoryError",
    "NotImplementedError", "OSError", "OverflowError", "PendingDeprecationWarning",
    "PermissionError", "ProcessLookupError", "RecursionError", "ReferenceError",
    "ResourceWarning", "RuntimeError", "RuntimeWarning", "StopAsyncIteration", "StopIteration",
    "SyntaxError", "SyntaxWarning", "SystemError", "SystemExit", "TabError", "TimeoutError",
    "TypeError", "UnboundLocalError", "UnicodeDecodeError", "UnicodeEncodeError", "UnicodeError",
    "UnicodeTranslateError", "UnicodeWarning", "UserWarning", "ValueError", "Warning",
    "ZeroDivisionError"]

/-- What tells that the known names come from one module. -/
def loader : Builtin :=
  .type "_frozen_importlib.BuiltinImporter"

/-- The module of all known names. -/
def module : Builtin :=
  .thing "module" "<module 'builtins' (built-in)>"

/-- The ellipsis. -/
def ellipsis : Builtin :=
  .thing "ellipsis" "Ellipsis"

/-- The words about the module of all known names. -/
def moduleText : String :=
  "Built-in functions, types, exceptions, and other objects.\n\n" ++
  "This module provides direct access to all 'built-in'\n" ++
  "identifiers of Python; for example, builtins.len is\n" ++
  "the full name for the built-in function len().\n\n" ++
  "This module is not normally accessed explicitly by most\n" ++
  "applications, but can be useful in modules that provide\n" ++
  "objects with the same name as a built-in value, but in\n" ++
  "which the built-in of that name is also needed."

/-- How a session is left. -/
def leaving (name : String) : Builtin :=
  .thing "Quitter" s!"Use {name}() or Ctrl-D (i.e. EOF) to exit"

/-- The names that are neither functions nor types, with their values. -/
def things : List (String × Value) :=
  [("None", .none), ("True", .bool true), ("False", .bool false), ("__debug__", .bool true),
    ("__name__", .text "builtins"), ("__package__", .text ""), ("__doc__", .text moduleText),
    ("__loader__", .builtin loader),
    ("__spec__", .builtin (.thing "ModuleSpec" ("ModuleSpec(name='builtins', " ++
      "loader=<class '_frozen_importlib.BuiltinImporter'>, origin='built-in')"))),
    ("Ellipsis", .builtin ellipsis),
    ("NotImplemented", .builtin (.thing "NotImplementedType" "NotImplemented")),
    ("EnvironmentError", .builtin (.type "OSError")), ("IOError", .builtin (.type "OSError")),
    ("exit", .builtin (leaving "exit")), ("quit", .builtin (leaving "quit")),
    ("license", .builtin (.thing "_Printer" "Type license() to see the full license text")),
    ("help", .builtin (.thing "_Helper"
      "Type help() for interactive help, or help(object) for help about object."))]

/-- All known names with their values. -/
def table : List (String × Value) :=
  things ++ functionNames.map (fun name => (name, .builtin (.function name))) ++
    (typeNames ++ faultNames).map fun name => (name, .builtin (.type name))

/-- The value of a known name. -/
def find? (name : String) : Option Value :=
  table.lookup name

end Builtin

end StreamTemplate
