import Mathlib.Tactic.Common
import ProxyHeader.AddressBlock

/-!
# Address blocks to be written

`Addresses.encode` is the written form of an address block, and `Addresses.OfFamily`
says which blocks a family has: its addresses are of its version. Decoding uses as many
bytes as the family's blocks have and gives the block that they are the written form of
(`Addresses.decode_eq_ok_iff`); it succeeds where there are as many
(`Addresses.exists_decode_eq_ok`).
-/

namespace ProxyHeader

/-! ## Parts of a block -/

theorem Reader.vector_eq_some_iff {n : Nat} {r r' : Reader} {v : Vector UInt8 n} :
    r.vector n = some (v, r') ↔ r.rest = v.toList ++ r'.rest ∧ r'.base = r.base ∧
      r'.consumed = r.consumed + n := by
  obtain ⟨base', consumed', rest'⟩ := r'
  unfold vector
  dsimp only
  constructor
  · intro h
    split at h
    · simp only [Option.some.injEq, Prod.mk.injEq, Reader.mk.injEq] at h
      obtain ⟨rfl, rfl, rfl, rfl⟩ := h
      exact ⟨by simp, rfl, rfl⟩
    · simp at h
  · rintro ⟨hr, rfl, rfl⟩
    have htake : r.rest.take n = v.toList := by simp [hr]
    have hdrop : r.rest.drop n = rest' := by simp [hr]
    rw [dif_pos (by rw [htake, Vector.length_toList]), hdrop]
    simp only [htake, Option.some.injEq, Prod.mk.injEq, and_true]
    exact Vector.toArray_inj.mp (Array.toArray_toList)

theorem Reader.vector_append {n : Nat} (v : Vector UInt8 n) (base consumed : Nat) (rest : Bytes) :
    vector n ⟨base, consumed, v.toList ++ rest⟩ = some (v, ⟨base, consumed + n, rest⟩) :=
  vector_eq_some_iff.mpr ⟨rfl, rfl, rfl⟩

theorem Reader.u16_append (w : UInt16) (base consumed : Nat) (rest : Bytes) :
    u16 ⟨base, consumed, BigEndian.bytes16 w ++ rest⟩ = some (w, ⟨base, consumed + 2, rest⟩) :=
  u16_eq_some_iff.mpr ⟨rfl, rfl, rfl⟩

theorem exists_eq_vector_append {n : Nat} {bs : Bytes} (h : n ≤ bs.length) :
    ∃ (v : Vector UInt8 n) (rest : Bytes), bs = v.toList ++ rest :=
  ⟨⟨(bs.take n).toArray, by simp [h]⟩, bs.drop n, by simp⟩

theorem exists_eq_bytes16_append {bs : Bytes} (h : 2 ≤ bs.length) :
    ∃ (w : UInt16) (rest : Bytes), bs = BigEndian.bytes16 w ++ rest := by
  rcases bs with _ | ⟨hi, _ | ⟨lo, bs⟩⟩
  · simp at h
  · simp at h
  · exact ⟨BigEndian.word16 hi lo, bs, by rw [BigEndian.bytes16_word16]; rfl⟩

/-- Two endpoints as they are written: both addresses, then both ports. -/
def encodePair (source destination : Endpoint) : Bytes :=
  source.ip.octets ++ (destination.ip.octets ++
    (BigEndian.bytes16 source.port ++ BigEndian.bytes16 destination.port))

namespace Addresses

theorem readPair_eq_some_iff {n : Nat} {ip : Vector UInt8 n → IpAddress} {r : Reader}
    {s d : Endpoint} : readPair ip r = some (s, d) ↔
      ∃ (a b : Vector UInt8 n) (rest : Bytes), s.ip = ip a ∧ d.ip = ip b ∧
        r.rest = a.toList ++ (b.toList ++ (BigEndian.bytes16 s.port ++
          (BigEndian.bytes16 d.port ++ rest))) := by
  constructor
  · intro h
    simp only [readPair, Option.bind_eq_bind, Option.bind_eq_some_iff, Option.pure_def,
      Option.some.injEq, Prod.mk.injEq, Prod.exists] at h
    obtain ⟨a, r₁, h₁, b, r₂, h₂, p, r₃, h₃, q, r₄, h₄, rfl, rfl⟩ := h
    refine ⟨a, b, r₄.rest, rfl, rfl, ?_⟩
    rw [(Reader.vector_eq_some_iff.mp h₁).1, (Reader.vector_eq_some_iff.mp h₂).1,
      (Reader.u16_eq_some_iff.mp h₃).1, (Reader.u16_eq_some_iff.mp h₄).1]
  · rintro ⟨a, b, rest, hs, hd, hr⟩
    obtain ⟨sip, p⟩ := s
    obtain ⟨dip, q⟩ := d
    simp only at hs hd hr
    subst hs hd
    obtain ⟨base, consumed, bs⟩ := r
    simp only at hr
    subst hr
    simp only [readPair, Option.bind_eq_bind, Reader.vector_append, Reader.u16_append,
      Option.bind_some, Option.pure_def]

/-- Bytes that are long enough for two endpoints open with two. -/
theorem exists_readPair_eq_some {n : Nat} (ip : Vector UInt8 n → IpAddress) {r : Reader}
    (h : n + (n + 4) ≤ r.rest.length) : ∃ s d, readPair ip r = some (s, d) := by
  obtain ⟨a, rest₁, h₁⟩ := exists_eq_vector_append (Nat.le_trans (Nat.le_add_right _ _) h)
  rw [h₁, List.length_append, Vector.length_toList] at h
  obtain ⟨b, rest₂, rfl⟩ := exists_eq_vector_append (show n ≤ rest₁.length by omega)
  rw [List.length_append, Vector.length_toList] at h
  obtain ⟨p, rest₃, rfl⟩ := exists_eq_bytes16_append (show 2 ≤ rest₂.length by omega)
  rw [List.length_append, BigEndian.length_bytes16] at h
  obtain ⟨q, rest, rfl⟩ := exists_eq_bytes16_append (show 2 ≤ rest₃.length by omega)
  exact ⟨⟨ip a, p⟩, ⟨ip b, q⟩, readPair_eq_some_iff.mpr ⟨a, b, rest, rfl, rfl, h₁⟩⟩

/-! ## Blocks of a family -/

/-- The written form, with `paths` in the place of socket paths, which are not kept. -/
def encode (paths : Bytes) : Addresses → Bytes
  | inet source destination | inet6 source destination => encodePair source destination
  | unix => paths
  | unspecified => []

/-- The blocks of a family: its addresses are of its version. -/
inductive OfFamily : Family → Addresses → Prop where
  | inet (a b : Ipv4) (p q : UInt16) : OfFamily .inet (.inet ⟨.v4 a, p⟩ ⟨.v4 b, q⟩)
  | inet6 (a b : Ipv6) (p q : UInt16) : OfFamily .inet6 (.inet6 ⟨.v6 a, p⟩ ⟨.v6 b, q⟩)
  | unix : OfFamily .unix .unix
  | unspec : OfFamily .unspec .unspecified

theorem read?_eq_some_iff {f : Family} {r : Reader} {a : Addresses} :
    read? f r = some a ↔ OfFamily f a ∧ ∃ block rest, r.rest = block ++ rest ∧
      block.length = f.blockLength ∧ a.encode block = block := by
  constructor
  · intro h
    cases f with
    | inet =>
      obtain ⟨⟨⟨_, p⟩, ⟨_, q⟩⟩, hpair, rfl⟩ := Option.map_eq_some_iff.mp h
      obtain ⟨a, b, rest, rfl, rfl, hr⟩ := readPair_eq_some_iff.mp hpair
      refine ⟨.inet ⟨a⟩ ⟨b⟩ p q, encodePair ⟨.v4 ⟨a⟩, p⟩ ⟨.v4 ⟨b⟩, q⟩, rest, ?_, ?_, rfl⟩
      · simp [hr, encodePair, IpAddress.octets]
      · simp [encodePair, IpAddress.octets, Family.blockLength]
    | inet6 =>
      obtain ⟨⟨⟨_, p⟩, ⟨_, q⟩⟩, hpair, rfl⟩ := Option.map_eq_some_iff.mp h
      obtain ⟨a, b, rest, rfl, rfl, hr⟩ := readPair_eq_some_iff.mp hpair
      refine ⟨.inet6 ⟨a⟩ ⟨b⟩ p q, encodePair ⟨.v6 ⟨a⟩, p⟩ ⟨.v6 ⟨b⟩, q⟩, rest, ?_, ?_, rfl⟩
      · simp [hr, encodePair, IpAddress.octets]
      · simp [encodePair, IpAddress.octets, Family.blockLength]
    | unix =>
      obtain ⟨⟨block, r'⟩, htake, rfl⟩ := Option.map_eq_some_iff.mp h
      obtain ⟨hlen, hr, -, -⟩ := Reader.take_eq_some_iff.mp htake
      exact ⟨.unix, block, r'.rest, hr, hlen, rfl⟩
    | unspec =>
      obtain rfl := Option.some.inj h
      exact ⟨.unspec, [], r.rest, rfl, rfl, rfl⟩
  · rintro ⟨hf, block, rest, hr, hlen, hblock⟩
    cases hf with
    | inet a b p q =>
      have hpair : readPair (fun octets => .v4 ⟨octets⟩) r =
          some (⟨.v4 a, p⟩, ⟨.v4 b, q⟩) :=
        readPair_eq_some_iff.mpr ⟨a.octets, b.octets, rest, rfl, rfl, by
          rw [hr, ← hblock]
          simp [encode, encodePair, IpAddress.octets]⟩
      simp only [read?, hpair, Option.map_some]
    | inet6 a b p q =>
      have hpair : readPair (fun octets => .v6 ⟨octets⟩) r =
          some (⟨.v6 a, p⟩, ⟨.v6 b, q⟩) :=
        readPair_eq_some_iff.mpr ⟨a.octets, b.octets, rest, rfl, rfl, by
          rw [hr, ← hblock]
          simp [encode, encodePair, IpAddress.octets]⟩
      simp only [read?, hpair, Option.map_some]
    | unix =>
      have htake : r.take Family.unix.blockLength = some (block, ⟨r.base, r.consumed +
          Family.unix.blockLength, rest⟩) := Reader.take_eq_some_iff.mpr ⟨hlen, hr, rfl, rfl⟩
      simp only [read?, htake, Option.map_some]
    | unspec => rfl

/-- Decoding gives the block that the first bytes are the written form of. -/
theorem decode_eq_ok_iff {f : Family} {bs : Bytes} {a : Addresses} :
    decode f bs = .ok a ↔ OfFamily f a ∧ f.blockLength ≤ bs.length ∧
      a.encode (bs.take f.blockLength) = bs.take f.blockLength := by
  have hdecode : decode f bs = .ok a ↔ read? f (.ofBytes bs preambleLength) = some a := by
    unfold decode
    split <;> simp_all
  rw [hdecode, read?_eq_some_iff]
  refine and_congr_right fun _ => ?_
  constructor
  · rintro ⟨block, rest, hr, hlen, hblock⟩
    have hbs : bs = block ++ rest := hr
    have htake : bs.take f.blockLength = block := by rw [hbs, ← hlen, List.take_left]
    rw [htake]
    exact ⟨by rw [hbs, List.length_append]; omega, hblock⟩
  · rintro ⟨hle, hblock⟩
    refine ⟨bs.take f.blockLength, bs.drop f.blockLength, ?_, ?_, hblock⟩
    · exact (List.take_append_drop _ _).symm
    · rw [List.length_take]
      omega

/-- Decoding succeeds on as many bytes as the family's blocks have. -/
theorem exists_decode_eq_ok {f : Family} {bs : Bytes} (h : f.blockLength ≤ bs.length) :
    ∃ a, decode f bs = .ok a := by
  cases f with
  | inet =>
    obtain ⟨s, d, hpair⟩ := exists_readPair_eq_some (fun octets => .v4 ⟨octets⟩)
      (r := .ofBytes bs preambleLength) h
    exact ⟨.inet s d, by simp only [decode, read?, hpair, Option.map_some]⟩
  | inet6 =>
    obtain ⟨s, d, hpair⟩ := exists_readPair_eq_some (fun octets => .v6 ⟨octets⟩)
      (r := .ofBytes bs preambleLength) h
    exact ⟨.inet6 s d, by simp only [decode, read?, hpair, Option.map_some]⟩
  | unix =>
    refine ⟨.unix, decode_eq_ok_iff.mpr ⟨.unix, h, rfl⟩⟩
  | unspec => exact ⟨.unspecified, rfl⟩

/-- The written form of a family's block determines what it says. -/
theorem eq_of_encode_eq {f : Family} {block : Bytes} {a b : Addresses}
    (hlen : block.length = f.blockLength) (ha : OfFamily f a) (ha' : a.encode block = block)
    (hb : OfFamily f b) (hb' : b.encode block = block) : a = b := by
  have htake : block.take f.blockLength = block := by rw [← hlen, List.take_length]
  have hdecode : ∀ c, OfFamily f c → Addresses.encode block c = block →
      decode f block = .ok c := fun c hc hc' =>
    decode_eq_ok_iff.mpr ⟨hc, Nat.le_of_eq hlen.symm, by rw [htake]; exact hc'⟩
  exact Except.ok.inj ((hdecode a ha ha').symm.trans (hdecode b hb hb'))

end Addresses

end ProxyHeader
