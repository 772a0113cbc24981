import ProxyHeader.Error
import ProxyHeader.Bytes.Reader

/-!
# Records

A record is a type code, a big-endian length and that many bytes of value, at least
one. `Reader.record` reads the next one and fails in one of two ways: too few bytes are
left for code and length, or the value is empty or runs past the bytes there are.

What a successful read takes off the reader is exactly the written form of the record
it gives (`record_eq_ok_iff`).
-/

namespace ProxyHeader

/-- A record as it stands on the wire, with the offset of its type code. -/
structure Record where
  code : UInt8
  offset : Nat
  payload : Bytes
  deriving Repr, DecidableEq

/-- The bytes of a record before its value: type code and length. -/
def recordHeaderLength : Nat := 3

namespace Record

/-- The written form of a record whose value has at most 65535 bytes. -/
def encode (code : UInt8) (payload : Bytes) : Bytes :=
  code :: BigEndian.bytes16 (UInt16.ofNat payload.length) ++ payload

theorem length_encode (code : UInt8) (payload : Bytes) :
    (encode code payload).length = recordHeaderLength + payload.length := by
  simp only [encode, List.cons_append, List.length_cons, List.length_append,
    BigEndian.length_bytes16, recordHeaderLength]
  omega

end Record

namespace Reader

/-- Reads the next record. -/
def record (r : Reader) : Except HeaderError (Record × Reader) :=
  match r.u8 with
  | none => .error (.truncated r.offset r.remaining)
  | some (code, r₁) =>
    match r₁.u16 with
    | none => .error (.truncated r.offset r.remaining)
    | some (length, r₂) =>
      if length = 0 then .error (.overrun r.offset code 0)
      else
        match r₂.take length.toNat with
        | none => .error (.overrun r.offset code length.toNat)
        | some (payload, r₃) => .ok (⟨code, r.offset, payload⟩, r₃)

theorem record_eq_ok_iff {r r' : Reader} {rec : Record} : r.record = .ok (rec, r') ↔
    rec.offset = r.offset ∧ rec.payload ≠ [] ∧ rec.payload.length < 65536 ∧
      r.rest = Record.encode rec.code rec.payload ++ r'.rest ∧ r'.base = r.base ∧
      r'.consumed = r.consumed + (recordHeaderLength + rec.payload.length) := by
  obtain ⟨code, offset, payload⟩ := rec
  constructor
  · intro h
    unfold record at h
    split at h
    · simp at h
    next code₁ r₁ h₁ =>
      split at h
      · simp at h
      next length r₂ h₂ =>
        split at h
        · simp at h
        next hne =>
          split at h
          · simp at h
          next payload₁ r₃ h₃ =>
            simp only [Except.ok.injEq, Prod.mk.injEq, Record.mk.injEq] at h
            obtain ⟨⟨rfl, rfl, rfl⟩, rfl⟩ := h
            obtain ⟨hr, hb₁, hc₁⟩ := u8_eq_some_iff.mp h₁
            obtain ⟨hr₁, hb₂, hc₂⟩ := u16_eq_some_iff.mp h₂
            obtain ⟨hlen, hr₂, hb₃, hc₃⟩ := take_eq_some_iff.mp h₃
            have hlt := length.toNat_lt
            have hpos : length.toNat ≠ 0 := fun hz => hne (UInt16.toNat_inj.mp hz)
            refine ⟨rfl, ?_, ?_, ?_, by rw [hb₃, hb₂, hb₁], ?_⟩
            · rintro rfl
              exact hpos hlen.symm
            · exact hlen ▸ hlt
            · rw [hr, hr₁, hr₂, Record.encode, hlen, UInt16.ofNat_toNat]
              simp
            · simp only [recordHeaderLength]
              omega
  · rintro ⟨rfl, hne, hlt, hr, hb, hc⟩
    obtain ⟨base, consumed, rest⟩ := r
    obtain ⟨base', consumed', rest'⟩ := r'
    simp only at hne hlt hr hb hc
    subst hr hb hc
    have hlen : (UInt16.ofNat payload.length).toNat = payload.length := by
      rw [UInt16.toNat_ofNat']
      omega
    have hzero : UInt16.ofNat payload.length ≠ 0 := by
      intro h
      rw [h] at hlen
      exact hne (List.eq_nil_of_length_eq_zero hlen.symm)
    simp only [record, Record.encode, recordHeaderLength]
    generalize UInt16.ofNat payload.length = w at hlen hzero
    have hword := BigEndian.word16_bytes16 w
    simp only [u8, u16, BigEndian.bytes16, List.cons_append, List.nil_append, hword,
      if_neg hzero]
    simp only [hlen, take, List.take_left, if_true, List.drop_left]
    simp only [Except.ok.injEq, Prod.mk.injEq, Reader.mk.injEq, true_and, and_true]
    omega

/-- A record takes bytes off the reader. -/
theorem length_rest_of_record {r r' : Reader} {rec : Record} (h : r.record = .ok (rec, r')) :
    r'.rest.length < r.rest.length := by
  obtain ⟨-, -, -, hr, -, -⟩ := record_eq_ok_iff.mp h
  rw [hr, List.length_append, Record.length_encode, recordHeaderLength]
  omega

end Reader

end ProxyHeader
