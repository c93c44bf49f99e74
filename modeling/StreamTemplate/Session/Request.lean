import StreamTemplate.Loop.Store

/-!
# Requests to a session

A session feeds, pulls and renders streams step by step. Each request is answered at once; calls of
consumers go on in the background and are reported when they are finished.
-/

namespace StreamTemplate.Session

/-- What a session can be asked to do. -/
inductive Request where
  | push (chunk : Recipe)
  | close (fault : Option FaultRecipe)
  | abort (fault : Option FaultRecipe)
  /-- Starts a consumer's call. -/
  | call (id : String) (call : StreamCall)
  /-- Cancels a consumer's call. -/
  | cancel (id : String)
  | resolve (gate : String) (value : Recipe)
  | reject (gate : String) (fault : FaultRecipe)
  | cancelGate (gate : String)
  /-- Asks for the state of a coroutine among the shared values. -/
  | inspect (source : String)
  /-- Goes through a shared asynchronous iterable. -/
  | drain (id source : String)
  /-- Cancels the bodies that run as tasks. -/
  | cancelBodies
  /-- Asks for the stream in words. -/
  | describe
  | settle
  /-- Renders the template, or calls it directly; its stream becomes the current one. -/
  | render (direct : Bool) (args : List Recipe) (data : List (String × Recipe))
  /-- Renders the template and reads the stream. -/
  | renderText (id : String) (data : List (String × Recipe))
  /-- Renders the template with nothing but data. -/
  | renderPlainly (data : Recipe)

/-- The answer to a request. -/
inductive Answer where
  | nothing
  | flag (b : Bool)
  | flags (bs : List Bool)
  | text (s : String)
  /-- A stream as it was when its render had just started. -/
  | stream (s : ChunkStream)

/-- What is recorded after a request: its answer, and what has happened since the last one. -/
structure Record where
  answer : Except Fault Answer
  /-- The consumers' calls that finished, in order. -/
  finished : List (String × Except Fault Value)
  log : List String
  stream : Option ChunkStream

end StreamTemplate.Session
