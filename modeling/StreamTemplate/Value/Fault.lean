import StreamTemplate.Diagnostic.Report
import StreamTemplate.Text.Codec
import StreamTemplate.Value.Basic

/-!
# Faults

What code in tags and chunk sources can raise. Faults have classes, which form a hierarchy: a
handler for a class takes the faults of the classes below it. Failed operations on values are causes
of their own, each with one wording.
-/

namespace StreamTemplate

open Diagnostic

/-- The classes of faults. -/
inductive FaultClass where
  | exception
  | cancelled
  | arithmetic
  | zeroDivision
  | overflow
  | assertion
  | buffer
  | noAttribute
  | lookup
  | index
  | invalidState
  | key
  | memory
  | name
  | unboundLocal
  | os
  | connectionReset
  | runtime
  | recursion
  | stopIteration
  | stopAsyncIteration
  | syntaxFault
  | type
  | chunkType
  | value
  | unicode
  | unicodeDecode
  | unicodeEncode
  | template
  | templateNotFound
  | templateSyntax
  | templateRuntime
  | asyncUnsupported
  | streamAborted
  deriving DecidableEq, Repr

namespace FaultClass

/-- Every class. -/
def all : List FaultClass :=
  [exception, cancelled, arithmetic, zeroDivision, overflow, assertion, buffer, noAttribute,
    lookup, index, invalidState, key, memory, name, unboundLocal, os, connectionReset, runtime,
    recursion, stopIteration, stopAsyncIteration, syntaxFault, type, chunkType, value, unicode,
    unicodeDecode, unicodeEncode, template, templateNotFound, templateSyntax, templateRuntime,
    asyncUnsupported, streamAborted]

/-- The name of a class. -/
def label : FaultClass → String
  | exception => "Exception"
  | cancelled => "CancelledError"
  | arithmetic => "ArithmeticError"
  | zeroDivision => "ZeroDivisionError"
  | overflow => "OverflowError"
  | assertion => "AssertionError"
  | buffer => "BufferError"
  | noAttribute => "AttributeError"
  | lookup => "LookupError"
  | index => "IndexError"
  | invalidState => "InvalidStateError"
  | key => "KeyError"
  | memory => "MemoryError"
  | name => "NameError"
  | unboundLocal => "UnboundLocalError"
  | os => "OSError"
  | connectionReset => "ConnectionResetError"
  | runtime => "RuntimeError"
  | recursion => "RecursionError"
  | stopIteration => "StopIteration"
  | stopAsyncIteration => "StopAsyncIteration"
  | syntaxFault => "SyntaxError"
  | type => "TypeError"
  | chunkType => "ChunkTypeError"
  | value => "ValueError"
  | unicode => "UnicodeError"
  | unicodeDecode => "UnicodeDecodeError"
  | unicodeEncode => "UnicodeEncodeError"
  | template => "TemplateError"
  | templateNotFound => "TemplateNotFoundError"
  | templateSyntax => "TemplateSyntaxError"
  | templateRuntime => "TemplateRuntimeError"
  | asyncUnsupported => "AsyncUnsupportedError"
  | streamAborted => "StreamAbortedError"

/-- The class of a given name. -/
def ofLabel? (s : String) : Option FaultClass :=
  all.find? (·.label == s)

/-- The class directly above a class; cancellation and the class of ordinary faults have none. -/
def parent : FaultClass → Option FaultClass
  | exception | cancelled => none
  | zeroDivision | overflow => some arithmetic
  | index | key => some lookup
  | unboundLocal => some name
  | connectionReset => some os
  | recursion => some runtime
  | chunkType => some type
  | unicode => some value
  | unicodeDecode | unicodeEncode => some unicode
  | templateNotFound | templateSyntax | templateRuntime | asyncUnsupported => some template
  | _ => some exception

/-- A class and all classes above it. -/
def ancestors (c : FaultClass) : List FaultClass :=
  let up (cs : List FaultClass) := cs.flatMap fun d => d.parent.toList
  let one := up [c]
  let two := up one
  let three := up two
  c :: one ++ two ++ three ++ up three

/-- Whether a handler for `d` takes faults of class `c`. -/
def isA (c d : FaultClass) : Bool :=
  d ∈ c.ancestors

/-- The code under which faults of a class are documented unless they carry another. -/
def code? : FaultClass → Option Code
  | templateNotFound => some .templateNotFound
  | templateSyntax => some .syntaxError
  | templateRuntime => some .runtimeError
  | asyncUnsupported => some .asyncUnsupported
  | _ => none

end FaultClass

/-- A fault. -/
inductive Fault where
  /-- A fault of a class, made from arguments. -/
  | raised (cls : FaultClass) (args : List Value)
  /-- A name without a value. -/
  | unbound (name : String)
  /-- A value of that type is no chunk; `nested` tells that it was a batch inside a batch. -/
  | chunkType (typeName : String) (nested : Bool)
  /-- A template that does not compile; `given` is the message it was reported with, if that was
  no text. -/
  | template (report : SyntaxReport) (given : Option Value)
  /-- A failed render, and what it failed of; `given` is the message it was reported with, if that
  was no text. -/
  | render (report : RenderReport) (given : Option Value) (cause : Option Fault)
  /-- A stream torn down, and why. -/
  | aborted (args : List Value) (cause : Option Fault)

namespace Fault

/-- A fault of a class with a message. -/
def say (cls : FaultClass) (message : String) : Fault :=
  raised cls [.text message]

/-- The class of a fault. -/
def cls : Fault → FaultClass
  | raised cls _ => cls
  | unbound _ => .name
  | chunkType .. => .chunkType
  | template .. => .templateSyntax
  | render .. => .templateRuntime
  | aborted .. => .streamAborted

/-- Whether a handler for a class takes the fault. -/
def isA (f : Fault) (c : FaultClass) : Bool :=
  f.cls.isA c

/-- Ordinary faults: all but cancellation. -/
def isOrdinary (f : Fault) : Bool :=
  f.isA .exception

/-- What a fault was caused by, as far as that is recorded. -/
def cause? : Fault → Option Fault
  | render _ _ cause => cause
  | aborted _ cause => cause
  | _ => none

/-- The cancellation of a task. -/
def cancelled : Fault :=
  raised .cancelled []

end Fault

/-- The wording of a value that is no chunk. -/
def chunkTypeMessage (typeName : String) (nested : Bool) : String :=
  if nested then
    s!"Batches are flattened one level only; got a nested {typeName} inside a batch"
  else
    s!"Cannot enqueue {typeName}: expected str, bytes, an awaitable, " ++
      "an async iterable, a list/tuple of those, or None"

/-- The fault of a text that cannot be coded. -/
def codecFault (e : Text.CodecError) : Fault :=
  let cls := match e with
    | .unknownEncoding _ => .lookup
    | .undecodable .. => .unicodeDecode
    | .unencodable .. => .unicodeEncode
  .say cls e.message

/-- Why an operation on values fails. -/
inductive ValueFault where
  | noAttribute (type attr : String)
  | noTypeAttribute (type attr : String)
  | noModuleAttribute (attr : String)
  | typeAttribute (type attr : String)
  | readOnlyAttribute (type attr : String)
  | missingKey (key : Value)
  | outOfRange (what : String)
  | popFromEmpty (type : String)
  | badIndex (type index : String)
  | badSlice
  | readOnlyMemory
  | zeroSliceStep
  | sliceSize (what : String) (got wanted : Nat)
  | stepSliceNonIterable
  | byteRange
  | notBinary (type : String)
  | noBytes
  | notByteArray (type : String)
  | exported
  | notSubscriptable (type : String)
  | typeNotSubscriptable (type : String)
  | badSliceKey
  | noItemAssignment (type : String)
  | noItemDeletion (type : String)
  | noMemberDeletion (type : String)
  | unhashable (type : String)
  | notCallable (type : String)
  | notIterable (type : String)
  | notContainer (type : String)
  | textContainer (type : String)
  | noLength (type : String)
  | notInteger (type : String)
  | operands (op left right : String)
  | operand (op type : String)
  | concatenate (into other : String)
  | repeatBy (type : String)
  | compare (op left right : String)
  | divisionByZero
  | integerDivision
  | integerModulo
  | floatDivision
  | floatFloorDivision
  | floatModulo
  | zeroToNegative
  | tooLargeForFloat
  | quotientTooLarge
  | resultOutOfRange
  | tooManyDigits (digits : Option Nat)
  | unusedArguments (what : String)
  | incompleteFormat
  | notUnpackable (type : String)
  | tooFewValues (expected got : Nat) (atLeast : Bool)
  | tooManyValues (expected : Nat)
  | badIntegerText (shown : String)
  | badIntegerType (type : String)
  | notANumber
  | infinite
  | zeroRangeStep
  | argumentCount (message : String)
  | noReceiver (type method : String)
  | wrongReceiver (type method given : String)
  | starNonIterable (type : String)
  | joinNonIterable
  | joinItem (position : Nat) (expected type : String)
  | assignNonIterable
  | sizeChanged
  | keysChanged
  | lengthTooLarge
  | countTooLarge
  | indexTooLarge
  | repeatedTooLong (what : String)
  | outOfMemory
  | notAwaitable (type : String)
  | notAsyncIterable (type : String)
  | badAsyncIterator
  | noContextManager (type : String) (isAsync : Bool)
  | tooDeepToShow
  | tooDeepToCompare
  | unsupported (what : String)

namespace ValueFault

/-- The class and the wording of a failed operation. -/
def toFault : ValueFault → Fault
  | noAttribute type attr => .say .noAttribute s!"'{type}' object has no attribute '{attr}'"
  | noTypeAttribute type attr =>
    .say .noAttribute s!"type object '{type}' has no attribute '{attr}'"
  | noModuleAttribute attr =>
    .say .noAttribute s!"module 'builtins' has no attribute '{attr}'"
  | typeAttribute type attr =>
    .say .type s!"cannot set '{attr}' attribute of immutable type '{type}'"
  | readOnlyAttribute type attr =>
    .say .noAttribute s!"'{type}' object attribute '{attr}' is read-only"
  | missingKey key => .raised .key [key]
  | outOfRange what => .say .index what
  | popFromEmpty type => .say .index s!"pop from empty {type}"
  | badIndex type index =>
    .say .type (if type = "string" then s!"string indices must be integers, not '{index}'"
      else s!"{type} indices must be integers or slices, not {index}")
  | badSlice =>
    .say .type "slice indices must be integers or None or have an __index__ method"
  | readOnlyMemory => .say .type "cannot modify read-only memory"
  | zeroSliceStep => .say .value "slice step cannot be zero"
  | sliceSize what got wanted =>
    .say .value s!"attempt to assign {what} of size {got} to extended slice of size {wanted}"
  | stepSliceNonIterable => .say .type "must assign iterable to extended slice"
  | byteRange => .say .value "byte must be in range(0, 256)"
  | notBinary type => .say .type s!"a bytes-like object is required, not '{type}'"
  | noBytes =>
    .say .type "can assign only bytes, buffers, or iterables of ints in range(0, 256)"
  | notByteArray type => .say .type s!"cannot convert '{type}' object to bytearray"
  | exported => .say .buffer "Existing exports of data: object cannot be re-sized"
  | notSubscriptable type => .say .type s!"'{type}' object is not subscriptable"
  | typeNotSubscriptable type => .say .type s!"type '{type}' is not subscriptable"
  | badSliceKey => .say .type "memoryview: invalid slice key"
  | noItemAssignment type => .say .type s!"'{type}' object does not support item assignment"
  | noItemDeletion type => .say .type s!"'{type}' object does not support item deletion"
  | noMemberDeletion type => .say .type s!"'{type}' object doesn't support item deletion"
  | unhashable type => .say .type s!"unhashable type: '{type}'"
  | notCallable type => .say .type s!"'{type}' object is not callable"
  | notIterable type => .say .type s!"'{type}' object is not iterable"
  | notContainer type => .say .type s!"argument of type '{type}' is not iterable"
  | textContainer type =>
    .say .type s!"'in <string>' requires string as left operand, not {type}"
  | noLength type => .say .type s!"object of type '{type}' has no len()"
  | notInteger type => .say .type s!"'{type}' object cannot be interpreted as an integer"
  | operands op left right =>
    .say .type s!"unsupported operand type(s) for {op}: '{left}' and '{right}'"
  | operand op type => .say .type s!"bad operand type for unary {op}: '{type}'"
  | concatenate into other =>
    .say .type (if into = "bytes" || into = "bytearray" then s!"can't concat {other} to {into}"
      else s!"can only concatenate {into} (not \"{other}\") to {into}")
  | repeatBy type => .say .type s!"can't multiply sequence by non-int of type '{type}'"
  | compare op left right =>
    .say .type s!"'{op}' not supported between instances of '{left}' and '{right}'"
  | divisionByZero => .say .zeroDivision "division by zero"
  | integerDivision => .say .zeroDivision "integer division or modulo by zero"
  | integerModulo => .say .zeroDivision "integer modulo by zero"
  | floatDivision => .say .zeroDivision "float division by zero"
  | floatFloorDivision => .say .zeroDivision "float floor division by zero"
  | floatModulo => .say .zeroDivision "float modulo"
  | zeroToNegative => .say .zeroDivision "0.0 cannot be raised to a negative power"
  | tooLargeForFloat => .say .overflow "int too large to convert to float"
  | quotientTooLarge => .say .overflow "integer division result too large for a float"
  | resultOutOfRange => .raised .overflow [.int 34, .text "Numerical result out of range"]
  | tooManyDigits digits =>
    let given := (digits.map fun n => s!": value has {n} digits").getD ""
    .say .value (s!"Exceeds the limit (4300 digits) for integer string conversion{given}; " ++
      "use sys.set_int_max_str_digits() to increase the limit")
  | unusedArguments what => .say .type s!"not all arguments converted during {what} formatting"
  | incompleteFormat => .say .value "incomplete format"
  | notUnpackable type => .say .type s!"cannot unpack non-iterable {type} object"
  | tooFewValues expected got atLeast =>
    .say .value (if atLeast then
      s!"not enough values to unpack (expected at least {expected}, got {got})"
      else s!"not enough values to unpack (expected {expected}, got {got})")
  | tooManyValues expected => .say .value s!"too many values to unpack (expected {expected})"
  | badIntegerText shown => .say .value s!"invalid literal for int() with base 10: {shown}"
  | badIntegerType type =>
    .say .type ("int() argument must be a string, a bytes-like object or a real number, not " ++
      s!"'{type}'")
  | notANumber => .say .value "cannot convert float NaN to integer"
  | infinite => .say .overflow "cannot convert float infinity to integer"
  | zeroRangeStep => .say .value "range() arg 3 must not be zero"
  | argumentCount message => .say .type message
  | noReceiver type method =>
    .say .type s!"unbound method {type}.{method}() needs an argument"
  | wrongReceiver type method given =>
    .say .type s!"descriptor '{method}' for '{type}' objects doesn't apply to a '{given}' object"
  | starNonIterable type => .say .type s!"Value after * must be an iterable, not {type}"
  | joinNonIterable => .say .type "can only join an iterable"
  | joinItem position expected type =>
    .say .type s!"sequence item {position}: expected {expected}, {type} found"
  | assignNonIterable => .say .type "can only assign an iterable"
  | sizeChanged => .say .runtime "dictionary changed size during iteration"
  | keysChanged => .say .runtime "dictionary keys changed during iteration"
  | lengthTooLarge => .say .overflow "Python int too large to convert to C ssize_t"
  | countTooLarge => .say .overflow "cannot fit 'int' into an index-sized integer"
  | indexTooLarge => .say .index "cannot fit 'int' into an index-sized integer"
  | repeatedTooLong what => .say .overflow s!"repeated {what} too long"
  | outOfMemory => .raised .memory []
  | notAwaitable type => .say .type s!"object {type} can't be used in 'await' expression"
  | notAsyncIterable type =>
    .say .type s!"'async for' requires an object with __aiter__ method, got {type}"
  | badAsyncIterator =>
    .say .type ("'async for' received an object from __aiter__ that does not implement " ++
      "__anext__: int")
  | noContextManager type isAsync =>
    .say .type (if isAsync then
      s!"'{type}' object does not support the asynchronous context manager protocol"
      else s!"'{type}' object does not support the context manager protocol")
  | tooDeepToShow =>
    .say .recursion "maximum recursion depth exceeded while getting the repr of an object"
  | tooDeepToCompare => .say .recursion "maximum recursion depth exceeded in comparison"
  | unsupported what => .say .type s!"{what} is not supported"

end ValueFault

end StreamTemplate
