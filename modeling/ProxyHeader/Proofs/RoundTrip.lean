import Mathlib.Algebra.Ring.Nat
import ProxyHeader.Proofs.Header

/-!
# Round trips

A written header is read back as what was written, whatever the bytes behind it
(`Info.read_encode_append`). What was read can be written again, and is then the header
that it was read from (`Info.encode_of_read`); socket paths are not kept, so that they
have to be given once more.

An extension keeps the whole value of a TLS record next to what was decoded of it.
`SslInfo.StandsIn` says how the two fit: the value opens with flags and verification
result, and each record that is kept stands in the buffer at its own offset, inside the
record around it.
-/

namespace ProxyHeader

/-! ## Reading what was written -/

theorem length_flatMap_encode (es : List ExtensionItem) :
    (es.flatMap ExtensionItem.encode).length =
      (es.map fun e => recordHeaderLength + e.item.payload.length).sum := by
  simp only [List.length_flatMap, ExtensionItem.length_encode]

/-- A written header is read back, whatever follows it. -/
theorem Info.read_encode_append (h : Header) (t : Bytes) :
    ∃ (p : Preamble) (a : Addresses),
      p = ⟨.proxy, h.family, h.transport, h.family.blockLength,
        (h.records.map fun e => recordHeaderLength + e.item.payload.length).sum⟩ ∧
      p.totalLength = h.encode.length ∧
      Addresses.OfFamily h.family a ∧ a.encode h.block = h.block ∧
      read (h.encode ++ t) = .ok ⟨p, a, extensionsAt p.extensionsOffset h.records,
        p.warning?.toList ++ addressAnomalies a ++ anomaliesAt p.extensionsOffset h.records⟩ := by
  obtain ⟨a, hfamily, hblock, hread⟩ := h.exists_read_eq_ok t
  refine ⟨h.preamble, a, ?_, h.length_encode.symm, hfamily, hblock, hread⟩
  rw [Header.preamble, length_flatMap_encode]

/-- A TCP connection over IPv4 with the version of its TLS session. -/
def tlsHeader : Header where
  family := .inet
  transport := .stream
  block := [192, 0, 2, 1, 198, 51, 100, 2, 0x30, 0x39, 0x01, 0xBB]
  records := [.tls ⟨0x01, 0, [⟨0x21, [0x54, 0x4C, 0x53, 0x76, 0x31, 0x2E, 0x33], by decide,
    by decide⟩]⟩ (by decide)]
  family_ne_unspec := by decide
  transport_ne_unspec := by decide
  length_block := rfl
  length_le := by decide

example : tlsHeader.encode = signature ++ [0x21, 0x11, 0x00, 0x1E,
    192, 0, 2, 1, 198, 51, 100, 2, 0x30, 0x39, 0x01, 0xBB,
    0x20, 0x00, 0x0F, 0x01, 0, 0, 0, 0, 0x21, 0x00, 0x07, 0x54, 0x4C, 0x53, 0x76, 0x31, 0x2E,
    0x33] := by
  decide

/-! ## Where a TLS value stands -/

/-- What was decoded of the TLS record `e` stands in the buffer that it was read from. -/
structure SslInfo.StandsIn (buf : Bytes) (e : Extension) (s : SslInfo) : Prop where
  /-- The value opens with flags and verification result. -/
  opening : s.client :: BigEndian.bytes32 s.verify <+: e.payload
  /-- Each record that is kept stands behind these, inside the value. -/
  inside : ∀ sub ∈ s.subExtensions, e.offset + recordHeaderLength + headerLength ≤ sub.offset ∧
    sub.offset + (recordHeaderLength + sub.payload.length) ≤
      e.offset + recordHeaderLength + e.payload.length
  /-- Each record that is kept stands at its offset. -/
  stands : ∀ sub ∈ s.subExtensions,
    buf.extract sub.offset (sub.offset + (recordHeaderLength + sub.payload.length)) =
      Record.encode sub.kind.code sub.payload

theorem Item.subExtension?_eq_some_iff {offset : Nat} {i : Item} {sub : SubExtension} :
    i.subExtension? offset = some sub ↔
      sub.offset = offset ∧ sub.payload = i.payload ∧ sub.kind.code = i.code := by
  obtain ⟨kind, offset', payload⟩ := sub
  simp only [subExtension?, Option.map_eq_some_iff, SubKind.ofCode?_eq_some_iff,
    SubExtension.mk.injEq]
  grind

/-- A TLS record that stands in a buffer is read as what stands there. -/
theorem TlsValue.info_standsIn {buf rest : Bytes} {o : Nat} {v : TlsValue}
    {h : v.encode.length < 65536}
    (hbuf : buf.drop o = (ExtensionItem.tls v h).encode ++ rest) :
    (v.info (o + recordHeaderLength)).StandsIn buf ((ExtensionItem.tls v h).extension o) := by
  have hitems := TlsValue.drop_items (v := v) (Item.drop_payload hbuf)
  have hsub : ∀ sub ∈ (v.info (o + recordHeaderLength)).subExtensions,
      ∃ i : Item, (sub.offset, i) ∈
        located Item.encode (o + recordHeaderLength + SslInfo.headerLength) v.items ∧
          sub.payload = i.payload ∧ sub.kind.code = i.code := by
    intro sub hmem
    obtain ⟨⟨o', i⟩, hi, hsome⟩ := List.mem_filterMap.mp hmem
    obtain ⟨rfl, hpayload, hcode⟩ := Item.subExtension?_eq_some_iff.mp hsome
    exact ⟨i, hi, hpayload, hcode⟩
  have hopening : v.client :: BigEndian.bytes32 v.verify <+: v.encode :=
    ⟨v.items.flatMap Item.encode, by simp [TlsValue.encode]⟩
  refine ⟨hopening, ?_, ?_⟩
  · intro sub hmem
    obtain ⟨i, hi, hpayload, -⟩ := hsub sub hmem
    obtain ⟨hge, hle, -⟩ := drop_of_mem_located hitems hi
    rw [i.length_encode, ← hpayload] at hle
    refine ⟨hge, ?_⟩
    show _ ≤ o + recordHeaderLength + v.encode.length
    rw [v.length_encode]
    omega
  · intro sub hmem
    obtain ⟨i, hi, hpayload, hcode⟩ := hsub sub hmem
    obtain ⟨-, -, rest', hdrop⟩ := drop_of_mem_located hitems hi
    rw [hpayload, hcode, ← i.length_encode]
    exact extract_of_drop_eq hdrop

/-- The extensions of an accepted header that are for TLS are those with a decoded value,
and this stands in the buffer. -/
theorem Header.Describes.standsIn {h : Header} {i : Info} (hi : h.Describes i) (t : Bytes)
    {e : Extension} (he : e ∈ i.extensions) : (e.kind = .ssl ↔ e.ssl?.isSome) ∧
      ∀ s, e.ssl? = some s → s.StandsIn (h.encode ++ t) e := by
  have hdrop : (h.encode ++ t).drop h.preamble.extensionsOffset =
      h.records.flatMap ExtensionItem.encode ++
        (h.encode ++ t).drop h.preamble.totalLength := by
    rw [← h.records_encode t, extract_append_drop _ h.preamble.extensionsOffset_le_totalLength]
  rw [hi.extensions] at he
  obtain ⟨⟨o, item⟩, hmem, rfl⟩ := List.mem_map.mp he
  obtain ⟨-, -, rest, hrest⟩ := drop_of_mem_located hdrop hmem
  cases item with
  | tls v hv =>
    refine ⟨⟨fun _ => rfl, fun _ => rfl⟩, ?_⟩
    rintro s hs
    obtain rfl := Option.some.inj hs
    exact TlsValue.info_standsIn hrest
  | other item hne =>
    refine ⟨⟨fun hk => ?_, fun hs => by simp [ExtensionItem.extension] at hs⟩, ?_⟩
    · have hcode := congrArg ExtensionKind.code hk
      exact absurd ((ExtensionKind.code_ofCode item.code).symm.trans hcode) hne
    · intro s hs
      simp [ExtensionItem.extension] at hs

/-! ## Writing what was read -/

theorem Header.encode_append_take (h : Header) (t : Bytes) :
    (h.encode ++ t).take h.preamble.totalLength = h.encode := by
  rw [← h.length_encode, List.take_left]

/-- What was read is the bytes it was read from, written again with the address block in
the place of socket paths. -/
theorem Header.Describes.encode_block {h : Header} {i : Info} (hi : h.Describes i) :
    i.encode h.block = h.encode := by
  rw [hi.encode_eq, hi.block, Header.encode]

/-- Only socket paths are lost in reading. -/
theorem Addresses.OfFamily.encode_eq {f : Family} {a : Addresses} (ha : OfFamily f a)
    (hf : f ≠ .unix) (x y : Bytes) : a.encode x = a.encode y := by
  cases ha with
  | inet => rfl
  | inet6 => rfl
  | unix => exact absurd rfl hf
  | unspec => rfl

/-- But for socket paths, what was read is the header that it was read from. -/
theorem Header.Describes.encode_eq_encode {h : Header} {i : Info} (hi : h.Describes i)
    (hf : h.family ≠ .unix) (paths : Bytes) : i.encode paths = h.encode := by
  rw [← hi.encode_block, Info.encode, Info.encode, hi.family.encode_eq hf paths h.block]

theorem Addresses.OfFamily.eq_unix {f : Family} {a : Addresses} (ha : OfFamily f a)
    (hf : f = .unix) : a = .unix := by
  cases ha with
  | unix => rfl
  | inet => nomatch hf
  | inet6 => nomatch hf
  | unspec => nomatch hf

/-- What was read of a buffer is written again as the header at the front of it, with any
bytes in the place of socket paths, and a TLS value that was read stands there. So but for
socket paths a header is determined by what is read of it. -/
theorem Info.encode_of_read {buf : Bytes} {i : Info} (h : read buf = .ok i) :
    i.preamble.totalLength ≤ buf.length ∧
    (i.preamble.family ≠ .unix →
      ∀ paths, i.encode paths = buf.take i.preamble.totalLength) ∧
    (i.preamble.family = .unix →
      ∀ paths, i.encode paths = buf.take preambleLength ++
        (paths ++ buf.extract (preambleLength + Family.unix.blockLength)
          i.preamble.totalLength)) ∧
    (∀ e ∈ i.extensions, (e.kind = .ssl ↔ e.ssl?.isSome) ∧
      ∀ s, e.ssl? = some s → s.StandsIn buf e) ∧
    ∀ buf', i.preamble.family ≠ .unix → read buf' = .ok i →
      buf'.take i.preamble.totalLength = buf.take i.preamble.totalLength := by
  have hwritten : ∀ {b : Bytes}, read b = .ok i → i.preamble.family ≠ .unix →
      ∀ paths, i.encode paths = b.take i.preamble.totalLength := by
    intro b hb hf paths
    obtain ⟨header, t, rfl, hi⟩ := read_eq_ok_iff.mp hb
    rw [hi.preamble] at hf ⊢
    rw [header.encode_append_take, ← hi.encode_block, Info.encode, Info.encode,
      hi.family.encode_eq hf paths header.block]
  refine ⟨?_, hwritten h, ?_, ?_, ?_⟩
  · obtain ⟨header, t, rfl, hi⟩ := read_eq_ok_iff.mp h
    rw [hi.preamble, List.length_append, header.length_encode]
    exact Nat.le_add_right _ _
  · intro hf paths
    obtain ⟨header, t, rfl, hi⟩ := read_eq_ok_iff.mp h
    rw [hi.preamble] at hf ⊢
    have haddresses : i.addresses.encode paths = paths := by
      rw [hi.family.eq_unix hf]
      rfl
    have hoffset : preambleLength + Family.unix.blockLength = header.preamble.extensionsOffset := by
      rw [← hf]
      rfl
    rw [hi.encode_eq, haddresses, hoffset, header.records_encode, Header.encode, List.append_assoc,
      ← header.preamble.length_encode, List.take_left]
  · intro e he
    obtain ⟨header, t, rfl, hi⟩ := read_eq_ok_iff.mp h
    exact hi.standsIn t he
  · intro buf' hf h'
    rw [← hwritten h hf [], ← hwritten h' hf []]

/-- What is read of `tlsHeader`. -/
def tlsInfo : Info where
  preamble := ⟨.proxy, .inet, .stream, 12, 18⟩
  addresses := .inet ⟨.v4 ⟨#v[192, 0, 2, 1]⟩, 12345⟩ ⟨.v4 ⟨#v[198, 51, 100, 2]⟩, 443⟩
  extensions := [⟨.ssl, 28, [0x01, 0, 0, 0, 0, 0x21, 0x00, 0x07, 0x54, 0x4C, 0x53, 0x76, 0x31,
    0x2E, 0x33], some ⟨0x01, 0, [⟨.version, 36, [0x54, 0x4C, 0x53, 0x76, 0x31, 0x2E, 0x33]⟩]⟩⟩]
  anomalies := []

theorem Info.encode_of_read_tlsHeader :
    read (tlsHeader.encode ++ [0x47, 0x45]) = .ok tlsInfo ∧
      tlsInfo.encode [] = (tlsHeader.encode ++ [0x47, 0x45]).take 46 ∧
      ∀ e ∈ tlsInfo.extensions, ∀ s, e.ssl? = some s →
        s.StandsIn (tlsHeader.encode ++ [0x47, 0x45]) e := by
  have h : read (tlsHeader.encode ++ [0x47, 0x45]) = .ok tlsInfo := by decide +kernel
  obtain ⟨-, hwritten, -, hstands, -⟩ := encode_of_read h
  exact ⟨h, hwritten (by decide) [], fun e he => (hstands e he).2⟩

end ProxyHeader
