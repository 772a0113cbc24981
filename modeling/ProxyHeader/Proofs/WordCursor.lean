import ProxyHeader.Proofs.BlockFields
import ProxyHeader.Proofs.Guard

/-!
# Cursors in machine words

A `Reader` counts in natural numbers and holds what is left of its bytes. A `WordCursor`
holds all bytes of a buffer and a position in them, and counts in 64-bit words, which
wrap around. Its operations are programs that move the position as they go (`Reading`),
and one that fails leaves it where it has come to.

`Operation` lists what may be asked of either, and `Operation.after` and
`Operation.answers` do any number of operations one after the other. A reader that has
done some stands behind the bytes it handed out (`Reader.past_after`).

`WordCursor.perform_cases` says all that an operation can do to a cursor that is not past
the end of its buffer. Such a cursor answers an operation as the reader of what follows
it does, and is not past the end afterwards (`WordCursor.perform_reader`), so that it
goes along with that reader from then on (`WordCursor.after_reader`).

`WordCursor.tracks_reached` says what this comes to for a cursor that has done any
operations from the start of any buffer.
-/

namespace ProxyHeader

/-! ## Operations -/

theorem exists_eq_bytes32_append {bs : Bytes} (h : 4 ≤ bs.length) :
    ∃ (w : UInt32) (rest : Bytes), bs = BigEndian.bytes32 w ++ rest := by
  rcases bs with _ | ⟨a, _ | ⟨b, _ | ⟨c, _ | ⟨d, bs⟩⟩⟩⟩
  · simp at h
  · simp at h
  · simp at h
  · simp at h
  · exact ⟨BigEndian.word32 a b c d, bs, by rw [BigEndian.bytes32_word32]; rfl⟩

/-- What may be asked of a reader. -/
inductive Operation where
  /-- The next `n` bytes. -/
  | take (n : UInt64)
  /-- The next byte. -/
  | u8
  /-- The next two bytes as a big-endian number. -/
  | u16
  /-- The next four bytes as a big-endian number. -/
  | u32
  /-- The next `n` bytes as a vector. -/
  | array (n : UInt64)
  deriving Repr, DecidableEq

namespace Operation

/-- What an operation hands out. -/
def Value : Operation → Type
  | take _ => Bytes
  | u8 => UInt8
  | u16 => UInt16
  | u32 => UInt32
  | array n => Vector UInt8 n.toNat

/-- How many bytes an operation asks for. -/
def width : Operation → UInt64
  | take n => n
  | u8 => 1
  | u16 => 2
  | u32 => 4
  | array n => n

/-- The bytes of what was handed out, numbers written back with the high byte first. -/
def bytes : (o : Operation) → o.Value → Bytes
  | take _, bs => bs
  | u8, a => [a]
  | u16, w => BigEndian.bytes16 w
  | u32, w => BigEndian.bytes32 w
  | array _, v => v.toList

/-- Bytes that are enough for an operation open with those of something it hands out. -/
theorem exists_eq_bytes_append (o : Operation) {bs : Bytes} (h : o.width.toNat ≤ bs.length) :
    ∃ (a : o.Value) (rest : Bytes),
      bs = o.bytes a ++ rest ∧ (o.bytes a).length = o.width.toNat := by
  cases o with
  | take n =>
    exact ⟨bs.take n.toNat, bs.drop n.toNat, (List.take_append_drop _ bs).symm,
      List.length_take_of_le h⟩
  | u8 =>
    match bs with
    | a :: rest => exact ⟨a, rest, rfl, rfl⟩
    | [] => cases h
  | u16 =>
    obtain ⟨w, rest, rfl⟩ := exists_eq_bytes16_append h
    exact ⟨w, rest, rfl, rfl⟩
  | u32 =>
    obtain ⟨w, rest, rfl⟩ := exists_eq_bytes32_append h
    exact ⟨w, rest, rfl, rfl⟩
  | array n =>
    obtain ⟨v, rest, rfl⟩ := exists_eq_vector_append h
    exact ⟨v, rest, rfl, Vector.length_toList⟩

/-! ### Any number of them -/

/-- An operation with what it handed out, if it did. -/
abbrev Answer := (o : Operation) × Option o.Value

/-- The bytes that an answer hands out. -/
def Answer.bytes : Answer → Bytes
  | ⟨o, some a⟩ => o.bytes a
  | ⟨_, none⟩ => []

/-- The bytes that were handed out, in order. -/
def handedOut (answers : List Answer) : Bytes :=
  answers.flatMap Answer.bytes

section Runs

variable {σ : Type} (step : (o : Operation) → σ → Option o.Value × σ)

/-- What operations leave, each done on what the one before it left. -/
def after : List Operation → σ → σ
  | [], s => s
  | o :: os, s => after os (step o s).2

/-- What operations answer, each done on what the one before it left. -/
def answers : List Operation → σ → List Answer
  | [], _ => []
  | o :: os, s => ⟨o, (step o s).1⟩ :: answers os (step o s).2

theorem after_append (os more : List Operation) (s : σ) :
    after step (os ++ more) s = after step more (after step os s) := by
  induction os generalizing s with
  | nil => rfl
  | cons o os ih => exact ih (step o s).2

theorem answers_append (os more : List Operation) (s : σ) :
    answers step (os ++ more) s = answers step os s ++ answers step more (after step os s) := by
  induction os generalizing s with
  | nil => rfl
  | cons o os ih => rw [List.cons_append, answers, ih, answers, after, List.cons_append]

end Runs

end Operation

open Operation (Answer handedOut after answers)

/-! ## Operations of a reader -/

namespace Reader

/-- Does an operation. -/
def read (r : Reader) : (o : Operation) → Option (o.Value × Reader)
  | .take n => r.take n.toNat
  | .u8 => r.u8
  | .u16 => r.u16
  | .u32 => r.u32
  | .array n => r.vector n.toNat

theorem read_eq_some_iff {o : Operation} {r r' : Reader} {a : o.Value} :
    r.read o = some (a, r') ↔ (o.bytes a).length = o.width.toNat ∧
      r.rest = o.bytes a ++ r'.rest ∧ r'.base = r.base ∧
      r'.consumed = r.consumed + o.width.toNat := by
  cases o with
  | take n => exact take_eq_some_iff
  | u8 => exact u8_eq_some_iff.trans (and_iff_right rfl).symm
  | u16 => exact u16_eq_some_iff.trans (and_iff_right rfl).symm
  | u32 => exact u32_eq_some_iff.trans (and_iff_right rfl).symm
  | array n => exact vector_eq_some_iff.trans (and_iff_right Vector.length_toList).symm

theorem takes_read (o : Operation) : Takes o.width.toNat (read · o) :=
  takes_of_eq_some_iff o.bytes read_eq_some_iff o.exists_eq_bytes_append

/-- Does an operation; a reader with too few bytes left stays as it is. -/
def perform (o : Operation) (r : Reader) : Option o.Value × Reader :=
  match r.read o with
  | some (a, r') => (some a, r')
  | none => (none, r)

/-- A reader stands behind `bs`, from where another one stood. -/
structure Past (bs : Bytes) (r r' : Reader) : Prop where
  rest : r.rest = bs ++ r'.rest
  base : r'.base = r.base
  consumed : r'.consumed = r.consumed + bs.length

theorem Past.trans {bs more : Bytes} {r r' r'' : Reader} (h : Past bs r r')
    (h' : Past more r' r'') : Past (bs ++ more) r r'' where
  rest := by rw [h.rest, h'.rest, List.append_assoc]
  base := h'.base.trans h.base
  consumed := by rw [h'.consumed, h.consumed, List.length_append, Nat.add_assoc]

/-- An operation takes a reader past the bytes it hands out. -/
theorem past_perform (o : Operation) (r : Reader) :
    Past (Answer.bytes ⟨o, (perform o r).1⟩) r (perform o r).2 := by
  rw [perform]
  cases h : r.read o with
  | none => exact ⟨rfl, rfl, rfl⟩
  | some pair =>
    obtain ⟨hlen, hrest, hbase, hconsumed⟩ := read_eq_some_iff.mp h
    exact ⟨hrest, hbase, by rw [hconsumed, ← hlen]; rfl⟩

theorem past_after (os : List Operation) (r : Reader) :
    Past (handedOut (answers perform os r)) r (after perform os r) := by
  induction os generalizing r with
  | nil => exact ⟨rfl, rfl, rfl⟩
  | cons o os ih => exact (past_perform o r).trans (ih (perform o r).2)

end Reader

/-! ## Cursors -/

/-- Bytes that can be counted in a machine word. -/
structure Slice where
  bytes : Bytes
  length_lt : bytes.length < UInt64.size

/-- How many bytes there are. -/
def Slice.length (s : Slice) : UInt64 :=
  UInt64.ofNat s.bytes.length

theorem Slice.toNat_length (s : Slice) : s.length.toNat = s.bytes.length :=
  UInt64.toNat_ofNat_of_lt' s.length_lt

/-- The sum of two words, if it is a word. -/
def sum? (a b : UInt64) : Option UInt64 :=
  if a.toNat + b.toNat < UInt64.size then some (a + b) else none

theorem toNat_of_sum? {a b w : UInt64} (h : sum? a b = some w) :
    w.toNat = a.toNat + b.toNat := by
  obtain ⟨hlt, hw⟩ := Option.ite_none_right_eq_some.mp h
  rw [← Option.some.inj hw, UInt64.toNat_add, Nat.mod_eq_of_lt hlt]

/-- A position in a buffer whose first byte has offset `base`. -/
structure WordCursor where
  buf : Slice
  base : UInt64
  position : UInt64

namespace WordCursor

variable {c : WordCursor}

/-- A cursor at the start of a buffer. -/
def ofSlice (buf : Slice) (base : UInt64) : WordCursor :=
  ⟨buf, base, 0⟩

/-- How many bytes were read so far. -/
def consumed (c : WordCursor) : UInt64 :=
  c.position

/-- How many bytes are left; past the end this wraps around. -/
def remaining (c : WordCursor) : UInt64 :=
  c.buf.length - c.position

/-- The offset of the next byte; one that is no word wraps around. -/
def offset (c : WordCursor) : UInt64 :=
  c.base + c.position

/-- The bytes that follow the position. -/
def rest (c : WordCursor) : Bytes :=
  c.buf.bytes.drop c.position.toNat

/-- The reader of what follows the position. -/
def reader (c : WordCursor) : Reader :=
  ⟨c.base.toNat, c.position.toNat, c.rest⟩

/-- The cursor `n` bytes further on. -/
def advance (n : UInt64) (c : WordCursor) : WordCursor :=
  { c with position := c.position + n }

/-- The cursor is not past the end of its buffer. -/
def Within (c : WordCursor) : Prop :=
  c.position.toNat ≤ c.buf.bytes.length

theorem Within.toNat_remaining (hc : c.Within) : c.remaining.toNat = c.rest.length := by
  have hle : c.position ≤ c.buf.length := by
    rwa [UInt64.le_iff_toNat_le, Slice.toNat_length]
  rw [remaining, UInt64.toNat_sub_of_le _ _ hle, Slice.toNat_length, rest, List.length_drop]

theorem Within.consumed_add_remaining (hc : c.Within) :
    c.consumed.toNat + c.remaining.toNat = c.buf.bytes.length := by
  rw [hc.toNat_remaining, rest, List.length_drop]
  exact Nat.add_sub_cancel' hc

theorem Within.toNat_offset (hc : c.Within)
    (h : c.base.toNat + c.buf.bytes.length < UInt64.size) :
    c.offset.toNat = c.base.toNat + c.consumed.toNat := by
  rw [Within] at hc
  have hlt : c.base.toNat + c.position.toNat < UInt64.size := by omega
  rw [offset, UInt64.toNat_add, Nat.mod_eq_of_lt hlt, consumed]

/-- As many bytes as follow the position can be added to it. -/
theorem Within.position_add (hc : c.Within) {n : UInt64} (h : n.toNat ≤ c.rest.length) :
    sum? c.position n = some (c.position + n) ∧
      (c.position + n).toNat = c.position.toNat + n.toNat ∧
      (c.position + n).toNat ≤ c.buf.bytes.length := by
  rw [Within] at hc
  rw [rest, List.length_drop] at h
  have hle : c.position.toNat + n.toNat ≤ c.buf.bytes.length := by omega
  have hsum : sum? c.position n = some (c.position + n) :=
    if_pos (Nat.lt_of_le_of_lt hle c.buf.length_lt)
  have hstop := toNat_of_sum? hsum
  exact ⟨hsum, hstop, Nat.le_trans (Nat.le_of_eq hstop) hle⟩

/-! ### Programs -/

/-- Programs that move a cursor, and may fail on the way. -/
abbrev Reading := OptionT (StateM WordCursor)

namespace Reading

variable {α β : Type}

/-- Runs a program from a cursor, which is there afterwards even if the program fails. -/
def run (x : Reading α) (c : WordCursor) : Option α × WordCursor :=
  StateT.run (OptionT.run x) c

/-- Goes on with what is there; if nothing is, the program fails. -/
def lift (o : Option α) : Reading α :=
  OptionT.mk (pure o)

/-- The next `n` bytes, if there are as many. -/
def take (n : UInt64) : Reading Bytes := do
  let c ← get
  let stop ← lift (sum? c.position n)
  let bs ← lift (part? c.buf.bytes c.position.toNat stop.toNat)
  set { c with position := stop }
  return bs

/-- The next `n` bytes as a vector. The program fails if the bytes it takes are not as
many as the vector has room for. -/
def array (n : UInt64) : Reading (Vector UInt8 n.toNat) := do
  let bs ← take n
  lift (if h : bs.length = n.toNat then some ⟨bs.toArray, h⟩ else none)

/-- The next byte. -/
def u8 : Reading UInt8 := do
  let v ← array 1
  return v[0]

/-- The next two bytes as a big-endian number. -/
def u16 : Reading UInt16 := do
  let v ← array 2
  return BigEndian.word16 v[0] v[1]

/-- The next four bytes as a big-endian number. -/
def u32 : Reading UInt32 := do
  let v ← array 4
  return BigEndian.word32 v[0] v[1] v[2] v[3]

/-- The program for an operation. -/
def ofOperation : (o : Operation) → Reading o.Value
  | .take n => take n
  | .u8 => u8
  | .u16 => u16
  | .u32 => u32
  | .array n => array n

/-! ### What programs do -/

theorem run_get (c : WordCursor) : run get c = (some c, c) :=
  rfl

theorem run_bind_of_some {x : Reading α} {f : α → Reading β} {c' : WordCursor} {a : α}
    (h : run x c = (some a, c')) : run (x >>= f) c = run (f a) c' := by
  simp only [run, OptionT.run_bind, Option.elimM, StateT.run_bind] at h ⊢
  rw [h]
  rfl

theorem run_bind_of_none {x : Reading α} {f : α → Reading β} {c' : WordCursor}
    (h : run x c = (none, c')) : run (x >>= f) c = (none, c') := by
  simp only [run, OptionT.run_bind, Option.elimM, StateT.run_bind] at h ⊢
  rw [h]
  rfl

theorem run_lift_bind {f : α → Reading β} {o : Option α} {a : α} (h : o = some a) :
    run (lift o >>= f) c = run (f a) c :=
  run_bind_of_some (Prod.ext h rfl)

/-- Where the sum is no word, it is past the end of any buffer. -/
theorem run_take_of_lt {n : UInt64} (h : c.rest.length < n.toNat) :
    run (take n) c = (none, c) := by
  rw [rest, List.length_drop] at h
  rw [take, run_bind_of_some (run_get c)]
  cases hsum : sum? c.position n with
  | none => exact run_bind_of_none rfl
  | some stop =>
    have hstop := toNat_of_sum? hsum
    have hpart : part? c.buf.bytes c.position.toNat stop.toNat = none := if_neg (by omega)
    rw [run_lift_bind rfl]
    exact run_bind_of_none (Prod.ext hpart rfl)

theorem run_take (hc : c.Within) {n : UInt64} {bs more : Bytes} (h : c.rest = bs ++ more)
    (hn : bs.length = n.toNat) : run (take n) c = (some bs, c.advance n) := by
  have hlen := congrArg List.length h
  rw [List.length_append, hn] at hlen
  obtain ⟨hsum, hstop, hle⟩ := hc.position_add (n := n) (by omega)
  have hpart : part? c.buf.bytes c.position.toNat (c.position + n).toNat = some bs := by
    rw [part?_of_le (by omega) hle, hstop, ← hn, extract_of_drop_eq h]
  rw [take, run_bind_of_some (run_get c), run_lift_bind hsum, run_lift_bind hpart]
  rfl

theorem run_array_of_lt {n : UInt64} (h : c.rest.length < n.toNat) :
    run (array n) c = (none, c) :=
  run_bind_of_none (run_take_of_lt h)

theorem run_array (hc : c.Within) {n : UInt64} {v : Vector UInt8 n.toNat} {more : Bytes}
    (h : c.rest = v.toList ++ more) : run (array n) c = (some v, c.advance n) := by
  have hv : (⟨v.toList.toArray, Vector.length_toList⟩ : Vector UInt8 n.toNat) = v :=
    Vector.toArray_inj.mp (Array.toArray_toList)
  rw [array, run_bind_of_some (run_take hc h Vector.length_toList),
    dif_pos Vector.length_toList, hv]
  rfl

end Reading

/-! ### Operations of a cursor -/

/-- Does an operation. -/
def perform (o : Operation) (c : WordCursor) : Option o.Value × WordCursor :=
  (Reading.ofOperation o).run c

/-- An operation that asks for too much leaves the cursor as it is. -/
theorem perform_of_lt {o : Operation} (h : c.rest.length < o.width.toNat) :
    perform o c = (none, c) := by
  cases o with
  | take n => exact Reading.run_take_of_lt h
  | u8 => exact Reading.run_bind_of_none (Reading.run_array_of_lt h)
  | u16 => exact Reading.run_bind_of_none (Reading.run_array_of_lt h)
  | u32 => exact Reading.run_bind_of_none (Reading.run_array_of_lt h)
  | array n => exact Reading.run_array_of_lt h

/-- Any other operation hands out the bytes in front of the cursor and goes past them. -/
theorem perform_of_rest_eq (hc : c.Within) {o : Operation} {a : o.Value} {more : Bytes}
    (h : c.rest = o.bytes a ++ more) (hlen : (o.bytes a).length = o.width.toNat) :
    perform o c = (some a, c.advance o.width) := by
  cases o with
  | take n => exact Reading.run_take hc h hlen
  | u8 => exact Reading.run_bind_of_some (Reading.run_array hc (n := 1) (v := #v[a]) h)
  | u16 =>
    have hv := Reading.run_array hc (n := 2)
      (v := #v[UInt8.ofNat (a.toNat / 256), UInt8.ofNat a.toNat]) h
    refine (Reading.run_bind_of_some hv).trans (Prod.ext (congrArg some ?_) rfl)
    exact BigEndian.word16_bytes16 a
  | u32 =>
    have hv := Reading.run_array hc (n := 4) (v := #v[UInt8.ofNat (a.toNat / 16777216),
      UInt8.ofNat (a.toNat / 65536), UInt8.ofNat (a.toNat / 256), UInt8.ofNat a.toNat]) h
    refine (Reading.run_bind_of_some hv).trans (Prod.ext (congrArg some ?_) rfl)
    exact BigEndian.word32_bytes32 a
  | array n => exact Reading.run_array hc h

/-- All that an operation can do. -/
theorem perform_cases (hc : c.Within) (o : Operation) :
    (c.rest.length < o.width.toNat ∧ perform o c = (none, c)) ∨
      ∃ (a : o.Value) (more : Bytes), perform o c = (some a, c.advance o.width) ∧
        c.rest = o.bytes a ++ more ∧ (o.bytes a).length = o.width.toNat ∧
        (c.advance o.width).position.toNat = c.position.toNat + o.width.toNat ∧
        (c.advance o.width).Within := by
  rcases Nat.lt_or_ge c.rest.length o.width.toNat with hlt | hle
  · exact .inl ⟨hlt, perform_of_lt hlt⟩
  · obtain ⟨a, more, hrest, hlen⟩ := o.exists_eq_bytes_append hle
    obtain ⟨-, hposition, hwithin⟩ := hc.position_add hle
    exact .inr ⟨a, more, perform_of_rest_eq hc hrest hlen, hrest, hlen, hposition, hwithin⟩

theorem perform_eq_none_iff (hc : c.Within) {o : Operation} :
    (perform o c).1 = none ↔ c.remaining < o.width := by
  rw [UInt64.lt_iff_toNat_lt, hc.toNat_remaining]
  rcases perform_cases hc o with ⟨hlt, h⟩ | ⟨a, more, h, hrest, hlen, -, -⟩
  · exact iff_of_true (by rw [h]) hlt
  · refine iff_of_false (by simp [h]) ?_
    rw [hrest, List.length_append]
    omega

theorem perform_of_eq_none (hc : c.Within) {o : Operation} (hnone : (perform o c).1 = none) :
    (perform o c).2 = c := by
  rcases perform_cases hc o with ⟨-, h⟩ | ⟨a, more, h, -, -, -, -⟩
  · rw [h]
  · simp [h] at hnone

theorem position_perform (hc : c.Within) {o : Operation} (hsome : (perform o c).1 ≠ none) :
    (perform o c).2.position.toNat = c.position.toNat + o.width.toNat := by
  rcases perform_cases hc o with ⟨-, h⟩ | ⟨a, more, h, -, -, hposition, -⟩
  · simp [h] at hsome
  · rw [h]
    exact hposition

/-! ### Going along with a reader -/

/-- The cursor `c'` is one that `c` has become, and stands where the reader `r` does. -/
structure GoesAlong (c c' : WordCursor) (r : Reader) : Prop where
  buf : c'.buf = c.buf
  base : c'.base = c.base
  within : c'.Within
  reader : c'.reader = r

/-- A cursor answers an operation as the reader of what follows it does, and goes along
with that reader. -/
theorem perform_reader (hc : c.Within) (o : Operation) :
    (perform o c).1 = (c.reader.perform o).1 ∧
      GoesAlong c (perform o c).2 (c.reader.perform o).2 := by
  rcases perform_cases hc o with ⟨hlt, h⟩ | ⟨a, more, h, hrest, hlen, hposition, hwithin⟩
  · have hread : c.reader.read o = none := (Reader.takes_read o).none_of_lt c.reader hlt
    rw [h, Reader.perform, hread]
    exact ⟨rfl, rfl, rfl, hc, rfl⟩
  · have hmore : (c.advance o.width).rest = more := by
      rw [rest, hposition, ← hlen]
      exact drop_add_of_drop_eq hrest
    rw [← hmore] at hrest
    have hread : c.reader.read o = some (a, (c.advance o.width).reader) :=
      Reader.read_eq_some_iff.mpr ⟨hlen, hrest, rfl, hposition⟩
    rw [h, Reader.perform, hread]
    exact ⟨rfl, rfl, rfl, hwithin, rfl⟩

/-- The induction is on the operations; that the cursor is not past the end carries it. -/
theorem after_reader (hc : c.Within) (os : List Operation) :
    answers perform os c = answers Reader.perform os c.reader ∧
      GoesAlong c (after perform os c) (after Reader.perform os c.reader) := by
  induction os generalizing c with
  | nil => exact ⟨rfl, rfl, rfl, hc, rfl⟩
  | cons o os ih =>
    obtain ⟨hanswer, hstep⟩ := perform_reader hc o
    obtain ⟨hanswers, hrun⟩ := ih hstep.within
    rw [hstep.reader] at hanswers hrun
    refine ⟨?_, hrun.buf.trans hstep.buf, hrun.base.trans hstep.base, hrun.within, hrun.reader⟩
    rw [answers, answers, hanswer, hanswers]

/-! ## Any operations from the start of a buffer -/

/-- The cursor that operations make of one at the start of a buffer. -/
def reached (buf : Slice) (base : UInt64) (os : List Operation) : WordCursor :=
  after perform os (ofSlice buf base)

/-- What the operations answer that a cursor does from the start of a buffer. -/
def answered (buf : Slice) (base : UInt64) (os : List Operation) : List Answer :=
  answers perform os (ofSlice buf base)

/-- What holds once a cursor has done some operations, however many of them failed. -/
structure Tracks (buf : Slice) (base : UInt64) (os : List Operation) : Prop where
  /-- The position is not past the end of the buffer. -/
  within : (reached buf base os).position.toNat ≤ buf.bytes.length
  /-- What was read and what is left are the whole buffer: the difference does not wrap. -/
  counts : (reached buf base os).consumed.toNat + (reached buf base os).remaining.toNat =
    buf.bytes.length
  /-- Offsets go on from the base, and do not wrap where that of the end does not. -/
  offset : base.toNat + buf.bytes.length < UInt64.size →
    (reached buf base os).offset.toNat = base.toNat + (reached buf base os).consumed.toNat
  /-- The bytes that were handed out are those up to the position. -/
  handed : handedOut (answered buf base os) = buf.bytes.take (reached buf base os).position.toNat
  /-- A further operation is done on the cursor as it is, and its answer is the next. -/
  further (o : Operation) :
    reached buf base (os ++ [o]) = (perform o (reached buf base os)).2 ∧
    answered buf base (os ++ [o]) =
      answered buf base os ++ [⟨o, (perform o (reached buf base os)).1⟩]
  /-- It fails exactly if it asks for more than is left. -/
  fails (o : Operation) :
    (perform o (reached buf base os)).1 = none ↔ (reached buf base os).remaining < o.width
  /-- One that succeeds goes past as many bytes as it asks for. -/
  moves (o : Operation) : (perform o (reached buf base os)).1 ≠ none →
    (reached buf base (os ++ [o])).position.toNat =
      (reached buf base os).position.toNat + o.width.toNat
  /-- One that fails changes nothing. -/
  stays (o : Operation) :
    (perform o (reached buf base os)).1 = none →
      reached buf base (os ++ [o]) = reached buf base os
  /-- The reader of the buffer answers all operations alike. -/
  answersReader : answered buf base os =
    answers Reader.perform os (.ofBytes buf.bytes base.toNat)
  /-- It stands where the cursor does. -/
  standsReader : (reached buf base os).reader =
    after Reader.perform os (.ofBytes buf.bytes base.toNat)

theorem tracks_reached (buf : Slice) (base : UInt64) (os : List Operation) :
    Tracks buf base os := by
  have hstart : (ofSlice buf base).Within := Nat.zero_le _
  obtain ⟨hanswers, hbuf, hbase, hwithin, hreader⟩ := after_reader hstart os
  have hpast := Reader.past_after os (ofSlice buf base).reader
  rw [← hanswers, ← hreader] at hpast
  have hposition : (reached buf base os).position.toNat =
      (handedOut (answered buf base os)).length :=
    hpast.consumed.trans (Nat.zero_add _)
  have hbytes : buf.bytes = handedOut (answered buf base os) ++ (reached buf base os).rest :=
    hpast.rest
  have hfurther (o : Operation) :
      reached buf base (os ++ [o]) = (perform o (reached buf base os)).2 :=
    Operation.after_append perform os [o] _
  exact {
    within := Nat.le_trans hwithin (Nat.le_of_eq (congrArg (·.bytes.length) hbuf))
    counts := hwithin.consumed_add_remaining.trans (congrArg (·.bytes.length) hbuf)
    offset := by
      intro h
      have hoffset := hwithin.toNat_offset
      rw [hbuf, hbase] at hoffset
      exact hoffset h
    handed := by
      rw [hposition, hbytes, List.take_left]
    further := fun o => ⟨hfurther o, Operation.answers_append perform os [o] _⟩
    fails := fun _ => perform_eq_none_iff hwithin
    moves := by
      intro o h
      rw [hfurther o]
      exact position_perform hwithin h
    stays := fun o h => (hfurther o).trans (perform_of_eq_none hwithin h)
    answersReader := hanswers
    standsReader := hreader }

/-- A length that would overflow fails, and the bytes are still there. -/
example : handedOut (answered ⟨[1, 2, 3, 4], by decide⟩ 100
    [.u8, .take 18446744073709551615, .u16, .u32]) = [1, 2, 3] := by decide

end WordCursor

end ProxyHeader
