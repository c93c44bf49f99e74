import StreamTemplate.Loop.Task
import StreamTemplate.Render.Convert
import StreamTemplate.Value.Heap

/-!
# The chunks that output tags write

What an output tag makes of a value is a chunk for a stream. What has to be waited for becomes a new
coroutine or asynchronous generator that converts what the value delivers, and a batch becomes a new
list.
-/

namespace StreamTemplate

/-- The value that stands for one thing written. -/
def Written.realize : Written → StateM Store Value
  | .chunk v => return v
  | .items iterable conversion => do
    return .process .asyncGenerator (← Store.newGenerator (.convert iterable none conversion))
  | .result awaitable conversion => do
    return .process .coroutine (← Store.newCoroutine (.convert awaitable conversion))

/-- The chunk that stands for what an output tag writes. -/
def Output.realize : Output → Act Value
  | .one written => Act.always written.realize
  | .batch ws => do
    let members ← Act.always (ws.mapM Written.realize)
    Act.work (newList members.toArray)

/-- The chunk of a raw output tag. -/
def rawChunk (v : Value) : Act Value := do
  (← Act.view (rawOutput · v)).realize

/-- The chunk of an escaped output tag. -/
def escapedChunk (escape : Escape) (v : Value) : Act Value := do
  (← Act.view (escapedOutput escape · v)).realize

end StreamTemplate
