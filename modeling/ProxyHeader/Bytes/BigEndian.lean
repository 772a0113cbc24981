/-!
# Big-endian words

The wire writes its two-byte and four-byte numbers with the most significant byte
first. `word16` and `word32` put a number together from its bytes, `bytes16` and
`bytes32` take it apart.

Either way round nothing is lost (`word16_bytes16`, `bytes16_word16` and their
four-byte twins), so a number and its bytes determine each other.
-/

namespace ProxyHeader

/-- A run of bytes, first byte first. -/
abbrev Bytes := List UInt8

namespace BigEndian

/-! ## Two bytes -/

/-- The number with high byte `hi` and low byte `lo`. -/
def word16 (hi lo : UInt8) : UInt16 :=
  UInt16.ofNat (hi.toNat * 256 + lo.toNat)

/-- The two bytes of a number, high byte first. -/
def bytes16 (w : UInt16) : Bytes :=
  [UInt8.ofNat (w.toNat / 256), UInt8.ofNat w.toNat]

theorem toNat_word16 (hi lo : UInt8) : (word16 hi lo).toNat = hi.toNat * 256 + lo.toNat := by
  have h₁ := hi.toNat_lt
  have h₂ := lo.toNat_lt
  simp only [word16, UInt16.toNat_ofNat']
  omega

@[simp] theorem length_bytes16 (w : UInt16) : (bytes16 w).length = 2 := rfl

theorem bytes16_word16 (hi lo : UInt8) : bytes16 (word16 hi lo) = [hi, lo] := by
  have h₁ := hi.toNat_lt
  have h₂ := lo.toNat_lt
  simp only [bytes16, toNat_word16, List.cons.injEq, and_true]
  constructor <;> apply UInt8.toNat_inj.mp <;> simp only [UInt8.toNat_ofNat'] <;> omega

theorem word16_bytes16 (w : UInt16) :
    word16 (UInt8.ofNat (w.toNat / 256)) (UInt8.ofNat w.toNat) = w := by
  have h := w.toNat_lt
  apply UInt16.toNat_inj.mp
  simp only [toNat_word16, UInt8.toNat_ofNat']
  omega

/-! ## Four bytes -/

/-- The number with the bytes `a b c d`, most significant first. -/
def word32 (a b c d : UInt8) : UInt32 :=
  UInt32.ofNat (((a.toNat * 256 + b.toNat) * 256 + c.toNat) * 256 + d.toNat)

/-- The four bytes of a number, most significant first. -/
def bytes32 (w : UInt32) : Bytes :=
  [UInt8.ofNat (w.toNat / 16777216), UInt8.ofNat (w.toNat / 65536),
    UInt8.ofNat (w.toNat / 256), UInt8.ofNat w.toNat]

theorem toNat_word32 (a b c d : UInt8) : (word32 a b c d).toNat =
    ((a.toNat * 256 + b.toNat) * 256 + c.toNat) * 256 + d.toNat := by
  have h₁ := a.toNat_lt
  have h₂ := b.toNat_lt
  have h₃ := c.toNat_lt
  have h₄ := d.toNat_lt
  simp only [word32, UInt32.toNat_ofNat']
  omega

@[simp] theorem length_bytes32 (w : UInt32) : (bytes32 w).length = 4 := rfl

theorem bytes32_word32 (a b c d : UInt8) : bytes32 (word32 a b c d) = [a, b, c, d] := by
  have h₁ := a.toNat_lt
  have h₂ := b.toNat_lt
  have h₃ := c.toNat_lt
  have h₄ := d.toNat_lt
  simp only [bytes32, toNat_word32, List.cons.injEq, and_true]
  refine ⟨?_, ?_, ?_, ?_⟩ <;> apply UInt8.toNat_inj.mp <;> simp only [UInt8.toNat_ofNat'] <;> omega

theorem word32_bytes32 (w : UInt32) :
    word32 (UInt8.ofNat (w.toNat / 16777216)) (UInt8.ofNat (w.toNat / 65536))
      (UInt8.ofNat (w.toNat / 256)) (UInt8.ofNat w.toNat) = w := by
  have h := w.toNat_lt
  apply UInt32.toNat_inj.mp
  simp only [toNat_word32, UInt8.toNat_ofNat']
  omega

end BigEndian

end ProxyHeader
