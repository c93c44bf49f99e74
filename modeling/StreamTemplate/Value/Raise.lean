import StreamTemplate.Value.Show

/-!
# Making faults

A fault of a class is made from arguments by position. Most classes just keep them; a template
error takes them as the parts of its report.
-/

namespace StreamTemplate

open Diagnostic

/-- An argument that is a text; the absence of a value is the absence of a text. -/
def textArgument? (heap : Heap) (args : List Value) (place : Nat) :
    Except Fault (Option String) :=
  match args[place]? with
  | none | some .none => .ok none
  | some v => some <$> heap.text v

/-- An argument that is an integer. -/
def integerArgument? (args : List Value) (place : Nat) : Option Int :=
  match args[place]? with
  | some (.int n) => some n
  | some (.bool b) => some (if b then 1 else 0)
  | _ => none

/-- The fault of a constructor given no message. -/
def missingMessage (cls : FaultClass) : Fault :=
  .say .type s!"{cls.label}.__init__() missing 1 required positional argument: 'message'"

/-- The fault of a constructor given too many arguments; `taken` says how many it takes. -/
def tooManyArguments (cls : FaultClass) (taken : String) (given : Nat) : Fault :=
  .say .type s!"{cls.label}.__init__() takes {taken} positional arguments but {given} were given"

/-- A message that is no text. -/
def givenMessage : Value → Option Value
  | .text _ => none
  | v => some v

/-- A syntax error made from arguments: message, line, name, file, source and column. -/
def Heap.makeSyntaxFault (heap : Heap) : List Value → Except Fault Fault
  | [] => .error (missingMessage .templateSyntax)
  | message :: args => do
    if args.length > 5 then
      throw (tooManyArguments .templateSyntax "from 2 to 7" (args.length + 2))
    return .template
      { message := ← heap.text message
        line := integerArgument? args 0
        name := ← textArgument? heap args 1
        filename := ← textArgument? heap args 2
        source := ← textArgument? heap args 3
        col := integerArgument? args 4
        code := .syntaxError } (givenMessage message)

/-- A failure of a render made from its message. -/
def Heap.makeRenderFault (heap : Heap) : List Value → Except Fault Fault
  | [] => .error (missingMessage .templateRuntime)
  | [message] => do
    return .render
      { message := ← heap.text message
        expression := none
        name := none
        line := none
        suggestion := none
        snippet := none
        code := .runtimeError } (givenMessage message) none
  | args => .error (tooManyArguments .templateRuntime "2" (args.length + 1))

/-- A fault of a class made from arguments. -/
def Heap.makeFault (heap : Heap) (cls : FaultClass) (args : List Value) : Except Fault Fault :=
  match cls with
  | .templateSyntax => heap.makeSyntaxFault args
  | .templateRuntime => heap.makeRenderFault args
  | .streamAborted => .ok (.aborted args none)
  | cls => .ok (.raised cls args)

end StreamTemplate
