import ProxyHeader.Proofs.Item
import ProxyHeader.Proofs.Preamble

/-!
# The first sixteen bytes

The checks on a preamble look at its sixteen bytes, and only then at how many bytes
were received. `Preamble.Passes` says of some bytes that these checks let them through,
which the first sixteen of them decide (`Preamble.passes_take_iff`).

A preamble is read short in two cases: there are fewer bytes than sixteen, or the
sixteen pass and declare more than was received (`Preamble.read_eq_shortRead_iff`). Beyond the
sixteen only the number of bytes matters (`Preamble.read_congr`).
-/

namespace ProxyHeader

/-! ## Bytes by position -/

theorem drop_eq_byteAt_cons {buf : Bytes} {p : Nat} (h : p < buf.length) :
    buf.drop p = byteAt buf p :: buf.drop (p + 1) := by
  rw [List.drop_eq_getElem_cons h, byteAt, List.getD_eq_getElem?_getD,
    List.getElem?_eq_getElem h, Option.getD_some]

theorem byteAt_take {buf : Bytes} {p k : Nat} (h : p < k) :
    byteAt (buf.take k) p = byteAt buf p := by
  simp [byteAt, h]

/-- The length that a preamble declares for all that follows it. -/
def declaredLength (buf : Bytes) : Nat :=
  (BigEndian.word16 (byteAt buf 14) (byteAt buf 15)).toNat

theorem declaredLength_take {buf : Bytes} {k : Nat} (h : preambleLength ≤ k) :
    declaredLength (buf.take k) = declaredLength buf := by
  have h₁₆ : preambleLength = 16 := rfl
  rw [declaredLength, declaredLength, byteAt_take (by omega), byteAt_take (by omega)]

namespace Preamble

/-! ## The checks, byte by byte -/

/-- The checks on the sixteen bytes of a preamble let it through. -/
structure Passes (buf : Bytes) : Prop where
  not_text : ¬ textOpening <+: buf
  signature : buf.take signature.length = signature
  version : byteAt buf 12 >>> 4 = version
  command : byteAt buf 12 &&& 0x0F = Command.proxy.nibble
  /-- A served family and transport, and room for the addresses of the family. -/
  protocol : ∃ f t, servedProtocol? (byteAt buf 13) = some (f, t) ∧
    f.blockLength ≤ declaredLength buf

theorem passes_take_iff {buf : Bytes} {k : Nat} (h : preambleLength ≤ k) :
    Passes (buf.take k) ↔ Passes buf := by
  have h₁₆ : preambleLength = 16 := rfl
  have htext : textOpening <+: buf.take k ↔ textOpening <+: buf := by
    rw [List.prefix_take_iff]
    exact and_iff_left (Nat.le_trans (by decide) h)
  have hsignature : (buf.take k).take signature.length = buf.take signature.length := by
    rw [List.take_take, Nat.min_eq_left (Nat.le_trans (by decide) h)]
  have h₁₂ : byteAt (buf.take k) 12 = byteAt buf 12 := byteAt_take (by omega)
  have h₁₃ : byteAt (buf.take k) 13 = byteAt buf 13 := byteAt_take (by omega)
  constructor
  · rintro ⟨h₁, h₂, h₃, h₄, h₅⟩
    rw [htext] at h₁
    rw [hsignature] at h₂
    rw [h₁₂] at h₃ h₄
    rw [h₁₃, declaredLength_take h] at h₅
    exact ⟨h₁, h₂, h₃, h₄, h₅⟩
  · rintro ⟨h₁, h₂, h₃, h₄, h₅⟩
    rw [← htext] at h₁
    rw [← hsignature] at h₂
    rw [← h₁₂] at h₃ h₄
    rw [← h₁₃, ← declaredLength_take h] at h₅
    exact ⟨h₁, h₂, h₃, h₄, h₅⟩

/-- Where there are sixteen bytes, the signature and the four bytes behind it decide. -/
theorem read_of_le {buf : Bytes} (h : preambleLength ≤ buf.length) : read buf =
    if textOpening.isPrefixOf buf then .error .textHeader
    else if buf.take signature.length ≠ signature then .error .badSignature
    else check buf.length (byteAt buf 12) (byteAt buf 13) (declaredLength buf) := by
  have h₁₆ : preambleLength = 16 := rfl
  have hdrop : buf.drop signature.length =
      byteAt buf 12 :: byteAt buf 13 :: byteAt buf 14 :: byteAt buf 15 :: buf.drop 16 := by
    show buf.drop 12 = _
    rw [drop_eq_byteAt_cons (by omega), drop_eq_byteAt_cons (by omega),
      drop_eq_byteAt_cons (by omega), drop_eq_byteAt_cons (by omega)]
  rw [read, if_neg (Nat.not_lt.mpr h), hdrop]
  rfl

/-! ## Short reads -/

theorem check_eq_shortRead_iff {received declared expected actual : Nat} {vc ft : UInt8} :
    check received vc ft declared = .error (.shortRead expected actual) ↔
      vc >>> 4 = version ∧ vc &&& 0x0F = Command.proxy.nibble ∧
        (∃ f t, servedProtocol? ft = some (f, t) ∧ f.blockLength ≤ declared) ∧
        received < preambleLength + declared ∧ expected = preambleLength + declared ∧
        actual = received := by
  rw [check, ← Command.ofNibble?_eq_some_iff]
  by_cases hv : vc >>> 4 = version
  · rw [if_neg (not_not_intro hv)]
    by_cases hc : Command.ofNibble? (vc &&& 0x0F) = some .proxy
    · rw [if_neg (not_not_intro hc)]
      rcases hp : servedProtocol? ft with _ | ⟨f, t⟩
      · simp
      · have hroom : (∃ f' t', some (f, t) = some (f', t') ∧ f'.blockLength ≤ declared) ↔
            f.blockLength ≤ declared := by
          constructor
          · rintro ⟨f', t', heq, hle⟩
            obtain ⟨rfl, rfl⟩ := Prod.mk.inj (Option.some.inj heq)
            exact hle
          · exact fun hle => ⟨f, t, rfl, hle⟩
        simp only [hv, hc, hroom, true_and]
        split
        next hblock => simp [Nat.not_le.mpr hblock]
        next hblock =>
          split
          next hreceived =>
            simp only [Except.error.injEq, HeaderError.shortRead.injEq, Nat.add_comm declared]
            omega
          next hreceived =>
            simp only [reduceCtorEq, false_iff]
            omega
    · simp [hc]
  · simp [hv]

/-- A preamble is read short if its sixteen bytes are not all there, or if they pass and
declare more than was received. -/
theorem read_eq_shortRead_iff {buf : Bytes} {expected actual : Nat} :
    read buf = .error (.shortRead expected actual) ↔ actual = buf.length ∧
      ((buf.length < preambleLength ∧ expected = preambleLength) ∨
        (preambleLength ≤ buf.length ∧ Passes buf ∧
          buf.length < preambleLength + declaredLength buf ∧
          expected = preambleLength + declaredLength buf)) := by
  rcases Nat.lt_or_ge buf.length preambleLength with hlt | hge
  · rw [read, if_pos hlt]
    simp only [Except.error.injEq, HeaderError.shortRead.injEq]
    omega
  · rw [read_of_le hge]
    by_cases htext : textOpening.isPrefixOf buf
    · rw [if_pos htext]
      have hnot : ¬ Passes buf := fun h => h.not_text (List.isPrefixOf_iff_prefix.mp htext)
      simp only [Except.error.injEq, reduceCtorEq, hnot, false_and, and_false, or_false,
        false_iff]
      omega
    · rw [if_neg htext]
      by_cases hsig : buf.take signature.length = signature
      · rw [if_neg (not_not_intro hsig), check_eq_shortRead_iff]
        rw [List.isPrefixOf_iff_prefix] at htext
        constructor
        · rintro ⟨hv, hc, hp, hlt, he, ha⟩
          exact ⟨ha, Or.inr ⟨hge, ⟨htext, hsig, hv, hc, hp⟩, hlt, he⟩⟩
        · rintro ⟨ha, h | ⟨-, hpass, hlt, he⟩⟩
          · omega
          · exact ⟨hpass.version, hpass.command, hpass.protocol, hlt, he, ha⟩
      · rw [if_pos hsig]
        have hnot : ¬ Passes buf := fun h => hsig h.signature
        simp only [Except.error.injEq, reduceCtorEq, hnot, false_and, and_false, or_false,
        false_iff]
        omega

/-- Preambles are read from the first sixteen bytes and the number of bytes received. -/
theorem read_congr {a b : Bytes} (hlength : a.length = b.length)
    (hbefore : a.take preambleLength = b.take preambleLength) : read a = read b := by
  rcases Nat.lt_or_ge a.length preambleLength with hlt | hge
  · rw [read, if_pos hlt, read, if_pos (hlength ▸ hlt), hlength]
  · have hbyte : ∀ k < preambleLength, byteAt a k = byteAt b k := fun k hk => by
      rw [← byteAt_take hk, hbefore, byteAt_take hk]
    have htext : textOpening.isPrefixOf a = textOpening.isPrefixOf b := by
      rw [Bool.eq_iff_iff, List.isPrefixOf_iff_prefix, List.isPrefixOf_iff_prefix]
      have hle : textOpening.length ≤ preambleLength := by decide
      have htake : ∀ buf : Bytes, textOpening <+: buf.take preambleLength ↔ textOpening <+: buf :=
        fun buf => List.prefix_take_iff.trans (and_iff_left hle)
      rw [← htake a, hbefore, htake b]
    have hsignature : a.take signature.length = b.take signature.length := by
      have hle : signature.length ≤ preambleLength := by decide
      rw [← Nat.min_eq_left hle, ← List.take_take, hbefore, List.take_take]
    have hdeclared : declaredLength a = declaredLength b := by
      rw [← declaredLength_take (Nat.le_refl _), hbefore, declaredLength_take (Nat.le_refl _)]
    rw [read_of_le hge, read_of_le (hlength ▸ hge), htext, hsignature, hdeclared, hlength,
      hbyte 12 (by decide), hbyte 13 (by decide)]

end Preamble

end ProxyHeader
