import StreamTemplate.Text.Entity
import StreamTemplate.Text.Upper
import StreamTemplate.Value.Show

/-!
# Turning values into chunks

Raw output turns a value into its text, escaped output applies the escape function of the template.
Literals pass through raw output as they are. Values to be awaited and asynchronous iterables are
converted when they deliver, so a conversion is a value of its own that can be kept until then.
-/

namespace StreamTemplate

/-- The escape functions. -/
inductive Escape where
  /-- Makes text safe for HTML. -/
  | html
  | upper
  /-- Puts brackets around text. -/
  | bracket
  /-- Leaves a value as it is, whatever it is. -/
  | identity
  deriving DecidableEq, Repr

/-- The escape function of a name. -/
def Escape.ofName? : String → Option Escape
  | "html" => some html
  | "upper" => some upper
  | "bracket" => some bracket
  | "identity" => some identity
  | _ => none

/-- The text of a value, safe for HTML; the absence of a value is the empty text. -/
def Heap.htmlText (heap : Heap) : Value → Except Fault String
  | .none => .ok ""
  | v => Text.escapeHtml <$> heap.text v

/-- What an escape function makes of a value. -/
def Escape.apply (e : Escape) (heap : Heap) (v : Value) : Except Fault Value :=
  match e with
  | html => .text <$> heap.htmlText v
  | upper => (fun s => .text (Text.upper s)) <$> heap.text v
  | bracket => (fun s => .text ("[" ++ s ++ "]")) <$> heap.text v
  | identity => .ok v

/-- A value as a literal: literals as they are, anything else as text. -/
def Heap.literal (heap : Heap) (v : Value) : Except Fault Value :=
  match v with
  | .none => .ok (.text "")
  | v => if v.isLiteral then .ok v else .text <$> heap.text v

/-- How an output tag turns values into chunks. -/
inductive Conversion where
  | raw
  | escaped (escape : Escape)
  deriving DecidableEq, Repr

/-- What a conversion makes of a value. -/
def Conversion.apply (c : Conversion) (heap : Heap) (v : Value) : Except Fault Value :=
  match c with
  | raw => heap.literal v
  | escaped escape => escape.apply heap v

/-- What becomes of one value written by an output tag. -/
inductive Written where
  /-- A chunk. -/
  | chunk (v : Value)
  /-- The items of an asynchronous iterable, each converted. -/
  | items (iterable : Value) (conversion : Conversion)
  /-- What a value delivers when it is awaited, converted. -/
  | result (awaitable : Value) (conversion : Conversion)

/-- What becomes of one value written by an output tag. -/
def Conversion.write (c : Conversion) (heap : Heap) (v : Value) : Except Fault Written :=
  if v.isLiteral && c == .raw then .ok (.chunk v)
  else if v.isAsyncIterable then .ok (.items v c)
  else if v.isAwaitable then .ok (.result v c)
  else .chunk <$> c.apply heap v

/-- What becomes of a value written by an output tag: one thing, or a batch of them. -/
inductive Output where
  | one (w : Written)
  | batch (ws : List Written)

/-- What becomes of a member of a batch: it is written as a value by itself, except that a batch
inside a batch is taken for its text. -/
def writeMember (heap : Heap) (v : Value) : Except Fault Written :=
  if v.isBatch then .chunk <$> heap.literal v else Conversion.raw.write heap v

/-- What becomes of a value written by a raw output tag. -/
def rawOutput (heap : Heap) (v : Value) : Except Fault Output :=
  match v with
  | .tuple _ items => .batch <$> items.mapM (writeMember heap)
  | .cell .list id => .batch <$> (heap.list id).toList.mapM (writeMember heap)
  | v => .one <$> Conversion.raw.write heap v

/-- What becomes of a value written by an escaped output tag. -/
def escapedOutput (escape : Escape) (heap : Heap) (v : Value) : Except Fault Output :=
  .one <$> (Conversion.escaped escape).write heap v

end StreamTemplate
