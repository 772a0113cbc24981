import ProxyHeader.Bytes.BigEndian

/-!
# Taking in bytes

A header is looked for in the bytes of a single read. What a stream will give is a
queue of chunks and failures: a read takes from the chunk in front only, as much of it
as there is room for, and what is left of the chunk stays in front for the next read.

A failure in front is the answer of one read and costs no bytes. An empty chunk, and an
empty queue, answer with no bytes at all.
-/

namespace ProxyHeader

/-- Why no bytes could be taken in. -/
inductive IntakeError where
  /-- None came in the time there was. -/
  | timedOut
  /-- The source failed, and says how. -/
  | failed (reason : String)
  deriving Repr, DecidableEq

namespace IntakeError

/-- The sentence that tells a person what went wrong. -/
def message : IntakeError → String
  | timedOut => "timed out waiting for PROXY header"
  | failed reason => "IO error: " ++ reason

/-- What the source of the bytes said about its failure. -/
def reason? : IntakeError → Option String
  | timedOut => none
  | failed reason => some reason

end IntakeError

/-- What a stream has in store. -/
inductive Chunk where
  | bytes (bs : Bytes)
  | failure (reason : String)
  deriving Repr, DecidableEq

/-- All that a stream has in store, in order. -/
abbrev ChunkQueue := List Chunk

namespace ChunkQueue

/-- One read with room for `room` bytes: its answer, and what is in store afterwards. -/
def read (room : Nat) : ChunkQueue → Except IntakeError Bytes × ChunkQueue
  | [] => (.ok [], [])
  | .failure reason :: queue => (.error (.failed reason), queue)
  | .bytes bs :: queue =>
    if bs.length ≤ room then (.ok bs, queue)
    else (.ok (bs.take room), .bytes (bs.drop room) :: queue)

/-- Successive reads, each with the room given for it. -/
def readAll : List Nat → ChunkQueue → List (Except IntakeError Bytes)
  | [], _ => []
  | room :: rooms, queue => (queue.read room).1 :: readAll rooms (queue.read room).2

/-- All bytes in store, in order. -/
def pending : ChunkQueue → Bytes
  | [] => []
  | .failure _ :: queue => pending queue
  | .bytes bs :: queue => bs ++ pending queue

end ChunkQueue

end ProxyHeader
