import Mathlib.Tactic.Common
import ProxyHeader.Preamble

/-!
# Preambles to be written

`Preamble.encode` is the written form of a preamble, and `Preamble.IsValid` says which
preambles a header may have. Reading accepts exactly the written forms of valid
preambles that are followed by as many bytes as they declare
(`Preamble.read_eq_ok_iff`).
-/

namespace ProxyHeader

/-! ## The 14th byte -/

/-- A byte is put together from its halves. -/
theorem shiftLeft_or_and (b : UInt8) : (b >>> 4) <<< 4 ||| (b &&& 0x0F) = b := by
  have h : ∀ x : BitVec 8, (UInt8.ofBitVec x >>> 4) <<< 4 ||| (UInt8.ofBitVec x &&& 0x0F) =
      UInt8.ofBitVec x := by decide +kernel
  exact h b.toBitVec

/-- The byte that names a family and a transport. -/
def protocolByte (f : Family) (t : Transport) : UInt8 :=
  f.nibble <<< 4 ||| t.nibble

theorem servedProtocol?_eq_some_iff {b : UInt8} {f : Family} {t : Transport} :
    servedProtocol? b = some (f, t) ↔
      f ≠ .unspec ∧ t ≠ .unspec ∧ b = protocolByte f t := by
  constructor
  · intro h
    unfold servedProtocol? at h
    split at h
    · simp at h
    · simp at h
    next f' t' hf ht hf' ht' =>
      obtain ⟨rfl, rfl⟩ := Prod.mk.inj (Option.some.inj h)
      rw [protocolByte, ← Family.ofNibble?_eq_some_iff.mp hf',
        ← Transport.ofNibble?_eq_some_iff.mp ht', shiftLeft_or_and]
      exact ⟨hf, ht, rfl⟩
    · simp at h
  · rintro ⟨hf, ht, rfl⟩
    cases f <;> cases t <;> first | contradiction | rfl

namespace Preamble

/-! ## Written preambles -/

/-- The offset of the first extension record. -/
def extensionsOffset (p : Preamble) : Nat :=
  preambleLength + p.blockLength

theorem totalLength_eq (p : Preamble) :
    p.totalLength = p.extensionsOffset + p.extensionsLength :=
  rfl

/-- The written form: signature, version and command, family and transport, and the
declared length. -/
def encode (p : Preamble) : Bytes :=
  signature ++ [0x21, protocolByte p.family p.transport] ++
    BigEndian.bytes16 (UInt16.ofNat (p.blockLength + p.extensionsLength))

/-- A preamble that a header may have. -/
structure IsValid (p : Preamble) : Prop where
  command : p.command = .proxy
  family : p.family ≠ .unspec
  transport : p.transport ≠ .unspec
  blockLength : p.blockLength = p.family.blockLength
  declared_lt : p.blockLength + p.extensionsLength < 65536

theorem length_encode (p : Preamble) : p.encode.length = preambleLength :=
  rfl

theorem IsValid.toNat_declared {p : Preamble} (hp : p.IsValid) :
    (UInt16.ofNat (p.blockLength + p.extensionsLength)).toNat =
      p.blockLength + p.extensionsLength := by
  have := hp.declared_lt
  rw [UInt16.toNat_ofNat']
  omega

theorem check_eq_ok_iff {received declared : Nat} {vc ft : UInt8} {p : Preamble} :
    check received vc ft declared = .ok p ↔
      vc = 0x21 ∧ ft = protocolByte p.family p.transport ∧ p.command = .proxy ∧
        p.family ≠ .unspec ∧ p.transport ≠ .unspec ∧ p.blockLength = p.family.blockLength ∧
        p.blockLength + p.extensionsLength = declared ∧ declared + preambleLength ≤ received := by
  constructor
  · intro h
    unfold check at h
    split at h
    · simp at h
    next hv =>
      split at h
      · simp at h
      next hc =>
        split at h
        · simp at h
        next f t hft =>
          split at h
          · simp at h
          next hlen =>
            split at h
            · simp at h
            next hrec =>
              obtain ⟨hf, ht, rfl⟩ := servedProtocol?_eq_some_iff.mp hft
              obtain rfl := Except.ok.inj h
              have hc := Command.ofNibble?_eq_some_iff.mp (not_not.mp hc)
              have hvc : vc = 0x21 := by
                rw [← shiftLeft_or_and vc, not_not.mp hv, hc]
                rfl
              refine ⟨hvc, rfl, rfl, hf, ht, rfl, ?_, by omega⟩
              simp only
              omega
  · rintro ⟨rfl, rfl, hc, hf, ht, hb, rfl, hrec⟩
    have hft := servedProtocol?_eq_some_iff.mpr ⟨hf, ht, rfl⟩
    obtain ⟨command, family, transport, blockLength, extensionsLength⟩ := p
    simp only at hc hf ht hb hrec hft ⊢
    subst hc hb
    unfold check
    rw [if_neg (by decide), if_neg (by decide), hft]
    simp only
    rw [if_neg (by omega), if_neg (by omega), Nat.add_sub_cancel_left]

/-- Reading accepts exactly the valid preambles followed by what they declare. -/
theorem read_eq_ok_iff {buf : Bytes} {p : Preamble} : read buf = .ok p ↔
    p.IsValid ∧ ∃ body, buf = p.encode ++ body ∧
      p.blockLength + p.extensionsLength ≤ body.length := by
  constructor
  · intro h
    unfold read at h
    split at h
    · simp at h
    split at h
    · simp at h
    split at h
    · simp at h
    next hsig =>
      split at h
      next vc ft hi lo body hdrop =>
        obtain ⟨rfl, rfl, hc, hf, ht, hb, hlen, hrec⟩ := check_eq_ok_iff.mp h
        have hbuf : buf = signature ++ 0x21 ::
            protocolByte p.family p.transport :: hi :: lo :: body := by
          rw [← hdrop]
          nth_rewrite 1 [← not_not.mp hsig]
          exact (List.take_append_drop _ _).symm
        have hlt := (BigEndian.word16 hi lo).toNat_lt
        refine ⟨⟨hc, hf, ht, hb, by omega⟩, body, ?_, ?_⟩
        · rw [hbuf, encode, hlen, UInt16.ofNat_toNat, BigEndian.bytes16_word16]
          simp
        · rw [hbuf] at hrec
          simp only [signature, preambleLength, List.length_append, List.length_cons,
            List.length_nil] at hrec
          omega
      · simp at h
  · rintro ⟨hp, body, rfl, hle⟩
    have hlen : (p.encode ++ body).length = preambleLength + body.length := by
      rw [List.length_append, length_encode]
    have hcheck : check (p.encode ++ body).length 0x21
        (protocolByte p.family p.transport)
        (UInt16.ofNat (p.blockLength + p.extensionsLength)).toNat = .ok p :=
      check_eq_ok_iff.mpr ⟨rfl, rfl, hp.command, hp.family, hp.transport, hp.blockLength,
        hp.toNat_declared.symm, by rw [hp.toNat_declared]; omega⟩
    have hdrop : (p.encode ++ body).drop signature.length =
        0x21 :: protocolByte p.family p.transport ::
          (BigEndian.bytes16 (UInt16.ofNat (p.blockLength + p.extensionsLength)) ++ body) := by
      simp [encode, List.append_assoc]
    have htake : (p.encode ++ body).take signature.length = signature := by
      simp [encode, List.append_assoc]
    unfold read
    rw [if_neg (by omega), if_neg (by simp [encode, signature, textOpening]), htake,
      if_neg (not_not_intro rfl), hdrop]
    simp only [BigEndian.bytes16, List.cons_append, List.nil_append,
      BigEndian.word16_bytes16]
    exact hcheck

end Preamble

end ProxyHeader
