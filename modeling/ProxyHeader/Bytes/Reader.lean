import ProxyHeader.Bytes.BigEndian

/-!
# A reader over received bytes

A `Reader` holds the bytes not yet read, how many were read, and the offset its first
byte has in the whole input. Every operation either hands out the next bytes and moves
past them, or finds too few left and gives nothing.

What an operation hands out stood at the front of `rest` and what it leaves is the rest
of it (`take_eq_some_iff`); it fails exactly when it asks for more than is left
(`take_eq_none_iff`).
-/

namespace ProxyHeader

/-- The bytes still to be read, with the position they start at. -/
structure Reader where
  /-- The offset of the first byte ever given to this reader. -/
  base : Nat
  /-- How many bytes were read so far. -/
  consumed : Nat
  /-- The bytes not yet read. -/
  rest : Bytes
  deriving Repr, DecidableEq

namespace Reader

/-- A reader at the start of `bs`, whose first byte has offset `base`. -/
def ofBytes (bs : Bytes) (base : Nat) : Reader :=
  ⟨base, 0, bs⟩

/-- How many bytes are left. -/
def remaining (r : Reader) : Nat :=
  r.rest.length

/-- The offset of the next byte. -/
def offset (r : Reader) : Nat :=
  r.base + r.consumed

/-! ## Runs of bytes -/

/-- The next `n` bytes, if there are as many. -/
def take (n : Nat) (r : Reader) : Option (Bytes × Reader) :=
  let front := r.rest.take n
  if front.length = n then some (front, ⟨r.base, r.consumed + n, r.rest.drop n⟩) else none

/-- The next `n` bytes as a vector, if there are as many. -/
def vector (n : Nat) (r : Reader) : Option (Vector UInt8 n × Reader) :=
  let front := r.rest.take n
  if h : front.length = n then
    some (⟨front.toArray, by simpa using h⟩, ⟨r.base, r.consumed + n, r.rest.drop n⟩)
  else none

theorem take_eq_some_iff {n : Nat} {r r' : Reader} {bs : Bytes} :
    r.take n = some (bs, r') ↔ bs.length = n ∧ r.rest = bs ++ r'.rest ∧ r'.base = r.base ∧
      r'.consumed = r.consumed + n := by
  obtain ⟨base', consumed', rest'⟩ := r'
  simp only [take, Option.ite_none_right_eq_some, Option.some.injEq, Prod.mk.injEq,
    Reader.mk.injEq]
  constructor
  · rintro ⟨hn, rfl, rfl, rfl, rfl⟩
    exact ⟨hn, (List.take_append_drop n r.rest).symm, rfl, rfl⟩
  · rintro ⟨rfl, hr, rfl, rfl⟩
    simp [hr]

theorem take_eq_none_iff {n : Nat} {r : Reader} : r.take n = none ↔ r.remaining < n := by
  simp only [take, remaining, ite_eq_right_iff, reduceCtorEq, imp_false, List.length_take]
  omega

/-! ## Numbers -/

/-- The next byte. -/
def u8 (r : Reader) : Option (UInt8 × Reader) :=
  match r.rest with
  | a :: rest => some (a, ⟨r.base, r.consumed + 1, rest⟩)
  | [] => none

/-- The next two bytes as a big-endian number. -/
def u16 (r : Reader) : Option (UInt16 × Reader) :=
  match r.rest with
  | a :: b :: rest => some (BigEndian.word16 a b, ⟨r.base, r.consumed + 2, rest⟩)
  | _ => none

/-- The next four bytes as a big-endian number. -/
def u32 (r : Reader) : Option (UInt32 × Reader) :=
  match r.rest with
  | a :: b :: c :: d :: rest => some (BigEndian.word32 a b c d, ⟨r.base, r.consumed + 4, rest⟩)
  | _ => none

theorem u8_eq_some_iff {r r' : Reader} {a : UInt8} :
    r.u8 = some (a, r') ↔ r.rest = a :: r'.rest ∧ r'.base = r.base ∧
      r'.consumed = r.consumed + 1 := by
  obtain ⟨base, consumed, rest⟩ := r
  obtain ⟨base', consumed', rest'⟩ := r'
  cases rest with
  | nil => simp [u8]
  | cons x xs =>
    simp only [u8, Option.some.injEq, Prod.mk.injEq, Reader.mk.injEq, List.cons.injEq]
    grind

theorem u16_eq_some_iff {r r' : Reader} {w : UInt16} :
    r.u16 = some (w, r') ↔ r.rest = BigEndian.bytes16 w ++ r'.rest ∧ r'.base = r.base ∧
      r'.consumed = r.consumed + 2 := by
  obtain ⟨base, consumed, rest⟩ := r
  obtain ⟨base', consumed', rest'⟩ := r'
  match rest with
  | [] => simp [u16, BigEndian.bytes16]
  | [_] => simp [u16, BigEndian.bytes16]
  | a :: b :: xs =>
    simp only [u16, Option.some.injEq, Prod.mk.injEq, Reader.mk.injEq]
    constructor
    · rintro ⟨rfl, rfl, rfl, rfl⟩
      exact ⟨by rw [BigEndian.bytes16_word16]; rfl, rfl, rfl⟩
    · rintro ⟨h, rfl, rfl⟩
      simp only [BigEndian.bytes16, List.cons_append, List.nil_append, List.cons.injEq] at h
      obtain ⟨rfl, rfl, rfl⟩ := h
      exact ⟨BigEndian.word16_bytes16 w, rfl, rfl, rfl⟩

theorem u32_eq_some_iff {r r' : Reader} {w : UInt32} :
    r.u32 = some (w, r') ↔ r.rest = BigEndian.bytes32 w ++ r'.rest ∧ r'.base = r.base ∧
      r'.consumed = r.consumed + 4 := by
  obtain ⟨base, consumed, rest⟩ := r
  obtain ⟨base', consumed', rest'⟩ := r'
  match rest with
  | [] => simp [u32, BigEndian.bytes32]
  | [_] => simp [u32, BigEndian.bytes32]
  | [_, _] => simp [u32, BigEndian.bytes32]
  | [_, _, _] => simp [u32, BigEndian.bytes32]
  | a :: b :: c :: d :: xs =>
    simp only [u32, Option.some.injEq, Prod.mk.injEq, Reader.mk.injEq]
    constructor
    · rintro ⟨rfl, rfl, rfl, rfl⟩
      exact ⟨by rw [BigEndian.bytes32_word32]; rfl, rfl, rfl⟩
    · rintro ⟨h, rfl, rfl⟩
      simp only [BigEndian.bytes32, List.cons_append, List.nil_append, List.cons.injEq] at h
      obtain ⟨rfl, rfl, rfl, rfl, rfl⟩ := h
      exact ⟨BigEndian.word32_bytes32 w, rfl, rfl, rfl⟩

end Reader

end ProxyHeader
