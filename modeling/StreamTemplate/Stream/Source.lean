import StreamTemplate.Value.Compare

/-!
# Chunk sources

What a stream can be fed: literals, values to be awaited, and asynchronous iterables, alone or in a
list or tuple. `none` stands for nothing at all.
-/

namespace StreamTemplate

/-- How a source yields its chunks. -/
inductive SourceKind where
  /-- It is the chunk. -/
  | literal
  /-- It is awaited for one chunk. -/
  | deferred
  /-- It is gone through for any number of chunks. -/
  | substream
  deriving DecidableEq, Repr

/-- The name of a kind of source. -/
def SourceKind.label : SourceKind → String
  | literal => "literal"
  | deferred => "deferred"
  | substream => "substream"

/-- A source in a queue. -/
structure Source where
  kind : SourceKind
  value : Value

/-- The source that a single value is; nothing for `none`. What can be both gone through and
awaited is gone through. -/
def classify (v : Value) : Except Fault (Option Source) :=
  match v with
  | .none => .ok none
  | v =>
    if v.isLiteral then .ok (some ⟨.literal, v⟩)
    else if v.isAsyncIterable then .ok (some ⟨.substream, v⟩)
    else if v.isAwaitable then .ok (some ⟨.deferred, v⟩)
    else .error (.chunkType v.className v.isBatch)

/-- The values that a chunk brings: the members of a list or tuple, else the chunk itself. -/
def Heap.chunkMembers (heap : Heap) : Value → List Value
  | .tuple _ items => items
  | .cell .list id => (heap.list id).toList
  | v => [v]

/-- The sources that values are, in order. -/
def flatten : List Value → Except Fault (List Source)
  | [] => .ok []
  | v :: rest => do
    let source ← classify v
    return source.toList ++ (← flatten rest)

/-- The empty chunk of the kind that suits a value: an empty byte string or the empty text. -/
def Value.emptyChunk : Value → Value
  | .binary .. | .cell .byteArray _ => .binary .bytes []
  | _ => .text ""

/-- A value as it is emitted: an empty chunk keeps the place of one that counts as false. -/
def Heap.normalize (heap : Heap) (v : Value) : Value :=
  if heap.truth v then v else v.emptyChunk

/-- Whether an awaited value or an item gone through can be emitted: a literal, or nothing. -/
def Value.isEmission : Value → Bool
  | none => true
  | v => v.isLiteral

end StreamTemplate
