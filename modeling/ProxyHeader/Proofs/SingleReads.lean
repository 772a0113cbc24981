import Mathlib.Data.List.Basic
import ProxyHeader.Intake
import ProxyHeader.Proofs.PartialRead

/-!
# Successive single reads

`ChunkQueue.Reads` says what one read does to a queue of chunks and failures, case by case,
and `ChunkQueue.reads_iff` that a read does it. It is what a receiver sees that has a
buffer of zeros filled at the front and cuts it to the count it is told
(`ChunkQueue.readBuffered_eq_read`): no zero of the buffer is left in the answer.

From one read follows what holds after any number of them, whatever room each has
(`ChunkQueue.successive_reads`): the bytes received so far and the bytes still in store are
the bytes there were, and so are the failures.
-/

namespace ProxyHeader

/-! ## A read through a buffer -/

/-- The buffer with as many of the bytes as it has room for written over its front. -/
def overwrite : Bytes → Bytes → Bytes
  | b :: bs, _ :: buffer => b :: overwrite bs buffer
  | _, buffer => buffer

theorem take_overwrite (bs buffer : Bytes) :
    (overwrite bs buffer).take (min bs.length buffer.length) = bs.take buffer.length := by
  induction bs generalizing buffer with
  | nil => simp
  | cons b bs ih =>
    cases buffer with
    | nil => simp
    | cons z buffer =>
      rw [overwrite, List.length_cons, List.length_cons, Nat.add_min_add_right,
        List.take_succ_cons, List.take_succ_cons, ih]

namespace ChunkQueue

/-- What a stream does with a buffer that it is given to fill: it fails, or says how many
bytes it wrote at the front of the buffer. -/
def fill (buffer : Bytes) : ChunkQueue → Except String (Nat × Bytes) × ChunkQueue
  | [] => (.ok (0, buffer), [])
  | .failure reason :: queue => (.error reason, queue)
  | .bytes bs :: queue =>
    let count := min bs.length buffer.length
    (.ok (count, overwrite bs buffer),
      if count = bs.length then queue else .bytes (bs.drop count) :: queue)

/-- One read into a buffer of zeros, which is cut to what was received. -/
def readBuffered (room : Nat) (queue : ChunkQueue) : Except IntakeError Bytes × ChunkQueue :=
  match fill (List.replicate room 0) queue with
  | (.ok (count, buffer), left) => (.ok (buffer.take count), left)
  | (.error reason, left) => (.error (.failed reason), left)

theorem readBuffered_eq_read (room : Nat) (queue : ChunkQueue) :
    readBuffered room queue = queue.read room := by
  match queue with
  | [] => rfl
  | .failure reason :: queue => rfl
  | .bytes bs :: queue =>
    have htake := take_overwrite bs (List.replicate room 0)
    rw [List.length_replicate] at htake
    simp only [readBuffered, fill, List.length_replicate, htake, read]
    by_cases hfit : bs.length ≤ room
    · rw [if_pos hfit, if_pos (Nat.min_eq_left hfit), List.take_of_length_le hfit]
    · rw [if_neg hfit, Nat.min_eq_right (Nat.le_of_not_le hfit), if_neg (by omega)]

/-! ## One read -/

/-- What a read with room for `room` bytes may answer, and what it leaves in store. -/
inductive Reads (room : Nat) :
    ChunkQueue → Except IntakeError Bytes → ChunkQueue → Prop where
  /-- Nothing is in store, and nothing comes. -/
  | dry : Reads room [] (.ok []) []
  /-- A failure in front is the answer, and is used up. -/
  | failed (reason : String) (queue : ChunkQueue) :
    Reads room (.failure reason :: queue) (.error (.failed reason)) queue
  /-- The chunk in front fits. -/
  | whole (bs : Bytes) (queue : ChunkQueue) (h : bs.length ≤ room) :
    Reads room (.bytes bs :: queue) (.ok bs) queue
  /-- The chunk in front does not fit; there is no room left, and the rest stays. -/
  | part (bs rest : Bytes) (queue : ChunkQueue) (h : bs.length = room) (hrest : rest ≠ []) :
    Reads room (.bytes (bs ++ rest) :: queue) (.ok bs) (.bytes rest :: queue)

theorem reads_read (room : Nat) (queue : ChunkQueue) :
    Reads room queue (queue.read room).1 (queue.read room).2 := by
  match queue with
  | [] => exact .dry
  | .failure reason :: queue => exact .failed reason queue
  | .bytes bs :: queue =>
    by_cases hfit : bs.length ≤ room
    · rw [read, if_pos hfit]
      exact .whole bs queue hfit
    · have hlt : room < bs.length := Nat.lt_of_not_le hfit
      have hrest : bs.drop room ≠ [] := by
        rw [ne_eq, List.drop_eq_nil_iff]
        omega
      have hpart := Reads.part (bs.take room) (bs.drop room) queue
        (List.length_take_of_le (Nat.le_of_lt hlt)) hrest
      rw [List.take_append_drop] at hpart
      rwa [read, if_neg hfit]

theorem reads_iff {room : Nat} {queue left : ChunkQueue} {answer : Except IntakeError Bytes} :
    Reads room queue answer left ↔ queue.read room = (answer, left) := by
  constructor
  · intro h
    cases h with
    | dry => rfl
    | failed => rfl
    | whole bs left hfit => rw [read, if_pos hfit]
    | part bs rest queue hroom hrest =>
      have hpos : 0 < rest.length := List.length_pos_iff.mpr hrest
      rw [read, if_neg (by rw [List.length_append]; omega), ← hroom, List.take_left,
        List.drop_left]
  · intro h
    have hreads := reads_read room queue
    rwa [h] at hreads

/-- What an answer gives out of a queue: no more bytes than there was room for, and those the
chunk in front opens with. -/
def FromFront (room : Nat) (queue : ChunkQueue) (bs : Bytes) : Prop :=
  bs.length ≤ room ∧ ((queue = [] ∧ bs = []) ∨
    ∃ chunk queue', queue = .bytes chunk :: queue' ∧ bs = chunk.take room)

theorem Reads.fromFront {room : Nat} {queue left : ChunkQueue} {bs : Bytes}
    (h : Reads room queue (.ok bs) left) : FromFront room queue bs := by
  cases h with
  | dry => exact ⟨Nat.zero_le _, .inl ⟨rfl, rfl⟩⟩
  | whole _ queue' hfit =>
    exact ⟨hfit, .inr ⟨bs, left, rfl, (List.take_of_length_le hfit).symm⟩⟩
  | part _ rest queue' hroom _ =>
    exact ⟨Nat.le_of_eq hroom, .inr ⟨bs ++ rest, queue', rfl, by rw [← hroom, List.take_left]⟩⟩

/-! ## What is in store, and what was given out -/

/-- The bytes that the answers gave, in order. -/
def received : List (Except IntakeError Bytes) → Bytes
  | [] => []
  | .ok bs :: answers => bs ++ received answers
  | .error _ :: answers => received answers

/-- The errors among the answers, in order. -/
def reported : List (Except IntakeError Bytes) → List IntakeError
  | [] => []
  | .ok _ :: answers => reported answers
  | .error e :: answers => e :: reported answers

/-- The failures in store, in order, as the errors that will report them. -/
def failures : ChunkQueue → List IntakeError
  | [] => []
  | .failure reason :: queue => .failed reason :: failures queue
  | .bytes _ :: queue => failures queue

/-- A read moves bytes from the store to its answer, and loses and invents none. -/
theorem Reads.received_append {room : Nat} {queue left : ChunkQueue}
    {answer : Except IntakeError Bytes} (h : Reads room queue answer left) :
    received [answer] ++ left.pending = queue.pending := by
  cases h with
  | dry => rfl
  | failed => rfl
  | whole => simp only [received, pending, List.append_nil]
  | part => simp only [received, pending, List.append_nil, List.append_assoc]

/-- A read reports the failure in front of it, and no other. -/
theorem Reads.reported_append {room : Nat} {queue left : ChunkQueue}
    {answer : Except IntakeError Bytes} (h : Reads room queue answer left) :
    reported [answer] ++ left.failures = queue.failures := by
  cases h <;> rfl

theorem received_cons (answer : Except IntakeError Bytes)
    (answers : List (Except IntakeError Bytes)) :
    received (answer :: answers) = received [answer] ++ received answers := by
  cases answer <;> simp [received]

theorem reported_cons (answer : Except IntakeError Bytes)
    (answers : List (Except IntakeError Bytes)) :
    reported (answer :: answers) = reported [answer] ++ reported answers := by
  cases answer <;> rfl

/-! ## Any number of reads -/

/-- What is in store after successive reads. -/
def after : List Nat → ChunkQueue → ChunkQueue
  | [], queue => queue
  | room :: rooms, queue => after rooms (queue.read room).2

theorem received_readAll (rooms : List Nat) (queue : ChunkQueue) :
    received (readAll rooms queue) ++ (after rooms queue).pending = queue.pending := by
  induction rooms generalizing queue with
  | nil => rfl
  | cons room rooms ih =>
    rw [readAll, after, received_cons, List.append_assoc, ih,
      (reads_read room queue).received_append]

theorem reported_readAll (rooms : List Nat) (queue : ChunkQueue) :
    reported (readAll rooms queue) ++ (after rooms queue).failures = queue.failures := by
  induction rooms generalizing queue with
  | nil => rfl
  | cons room rooms ih =>
    rw [readAll, after, reported_cons, List.append_assoc, ih,
      (reads_read room queue).reported_append]

theorem length_readAll (rooms : List Nat) (queue : ChunkQueue) :
    (readAll rooms queue).length = rooms.length := by
  induction rooms generalizing queue with
  | nil => rfl
  | cons room rooms ih => rw [readAll, List.length_cons, List.length_cons, ih]

/-- The answers of the first reads do not depend on the reads after them. -/
theorem take_readAll (n : Nat) (rooms : List Nat) (queue : ChunkQueue) :
    (readAll rooms queue).take n = readAll (rooms.take n) queue := by
  induction rooms generalizing n queue with
  | nil => rw [readAll, List.take_nil, List.take_nil, readAll]
  | cons room rooms ih =>
    cases n with
    | zero => rfl
    | succ n => rw [readAll, List.take_succ_cons, List.take_succ_cons, readAll, ih]

/-- Every read of a run takes from what the reads before it left. -/
theorem getElem?_readAll {n room : Nat} {rooms : List Nat} (queue : ChunkQueue)
    (h : rooms[n]? = some room) : ∃ answer, (readAll rooms queue)[n]? = some answer ∧
      Reads room (after (rooms.take n) queue) answer (after (rooms.take (n + 1)) queue) := by
  induction rooms generalizing n queue with
  | nil => simp at h
  | cons first rooms ih =>
    cases n with
    | zero =>
      obtain rfl := Option.some.inj h
      exact ⟨_, rfl, reads_read first queue⟩
    | succ n => exact ih (queue.read first).2 h

/-- A chunk that an accepted header begins with is not enough, and a read joins nothing
to it. -/
theorem read_split_header {buf a b : Bytes} {i : Info} (hread : Info.read buf = .ok i)
    (hlen : buf.length = i.preamble.totalLength) (hbuf : buf = a ++ b) (hb : b ≠ [])
    (room : Nat) (queue : ChunkQueue) :
    ∃ bs expected, (read room (.bytes a :: .bytes b :: queue)).1 = .ok bs ∧ bs <+: a ∧
      Info.read bs = .error (.shortRead expected bs.length) := by
  have hanswer : (read room (.bytes a :: .bytes b :: queue)).1 = .ok (a.take room) := by
    rw [read]
    split
    next hfit => rw [List.take_of_length_le hfit]
    next => rfl
  have hpos : 0 < b.length := List.length_pos_iff.mpr hb
  have htake : buf.take (a.take room).length = a.take room := by
    rw [hbuf, List.length_take, List.take_append_of_le_length (Nat.min_le_right _ _),
      List.take_eq_take_min, Nat.min_assoc, Nat.min_self, ← List.take_eq_take_min]
  have hlt : (a.take room).length < i.preamble.totalLength := by
    rw [← hlen, hbuf, List.length_append, List.length_take]
    omega
  obtain ⟨expected, hshort⟩ := Info.read_take_of_lt hread hlt
  rw [htake] at hshort
  exact ⟨a.take room, expected, hanswer, List.take_prefix room a, hshort⟩

/-- What successive reads, with the rooms given for them, do to a queue. -/
structure KeepsAll (rooms : List Nat) (queue : ChunkQueue) : Prop where
  /-- There is one answer for each read. -/
  answers : (readAll rooms queue).length = rooms.length
  /-- Each read takes what it answers from the front of what the reads before it left. -/
  step (n room : Nat) : rooms[n]? = some room → ∃ answer, (readAll rooms queue)[n]? = some answer ∧
    Reads room (after (rooms.take n) queue) answer (after (rooms.take (n + 1)) queue) ∧
    answer = (readBuffered room (after (rooms.take n) queue)).1 ∧
    ∀ bs, answer = .ok bs → FromFront room (after (rooms.take n) queue) bs
  /-- After any number of reads, the bytes given out and those in store are all the bytes. -/
  bytes (n : Nat) : received ((readAll rooms queue).take n) ++
    (after (rooms.take n) queue).pending = queue.pending
  /-- After any number of reads, each failure is reported or in store, and in order. -/
  failures (n : Nat) : reported ((readAll rooms queue).take n) ++
    (after (rooms.take n) queue).failures = queue.failures

/-- Successive reads lose and invent nothing, and join no two chunks. -/
theorem successive_reads :
    (∀ rooms queue, KeepsAll rooms queue) ∧
    ∀ (a b : Bytes) (i : Info), Info.read (a ++ b) = .ok i →
      (a ++ b).length = i.preamble.totalLength → a ≠ [] → b ≠ [] →
      ∀ (room : Nat) (queue : ChunkQueue), ∃ bs expected,
        (read room (.bytes a :: .bytes b :: queue)).1 = .ok bs ∧ bs <+: a ∧
        Info.read bs = .error (.shortRead expected bs.length) := by
  refine ⟨fun rooms queue => ?_, fun a b i hread hlen _ hb => read_split_header hread hlen rfl hb⟩
  refine ⟨length_readAll rooms queue, fun n room hroom => ?_, fun n => ?_, fun n => ?_⟩
  · obtain ⟨answer, hanswer, hreads⟩ := getElem?_readAll queue hroom
    refine ⟨answer, hanswer, hreads, ?_, fun bs hbs => (hbs ▸ hreads).fromFront⟩
    rw [readBuffered_eq_read, reads_iff.mp hreads]
  · rw [take_readAll]
    exact received_readAll _ queue
  · rw [take_readAll]
    exact reported_readAll _ queue

/-- A header cut in the middle of its preamble, and a read with room for much more. -/
theorem successive_reads_splitHeader :
    ∃ i, Info.read (signature ++ [0x21, 0x11] ++
        [0x00, 0x0C, 10, 0, 0, 1, 10, 0, 0, 2, 0x00, 0x50, 0x01, 0xBB]) = .ok i ∧
      i.preamble.totalLength = 28 ∧ ∃ bs expected,
        (read 4096 [.bytes (signature ++ [0x21, 0x11]),
          .bytes [0x00, 0x0C, 10, 0, 0, 1, 10, 0, 0, 2, 0x00, 0x50, 0x01, 0xBB]]).1 = .ok bs ∧
        bs <+: signature ++ [0x21, 0x11] ∧
        Info.read bs = .error (.shortRead expected bs.length) := by
  have hread : Info.read (signature ++ [0x21, 0x11] ++
      [0x00, 0x0C, 10, 0, 0, 1, 10, 0, 0, 2, 0x00, 0x50, 0x01, 0xBB]) =
      .ok ⟨⟨.proxy, .inet, .stream, 12, 0⟩,
        .inet ⟨.v4 ⟨#v[10, 0, 0, 1]⟩, 80⟩ ⟨.v4 ⟨#v[10, 0, 0, 2]⟩, 443⟩, [], []⟩ := by
    decide +kernel
  exact ⟨_, hread, rfl,
    successive_reads.2 _ _ _ hread rfl (by decide) (by decide) 4096 []⟩

end ChunkQueue

end ProxyHeader
