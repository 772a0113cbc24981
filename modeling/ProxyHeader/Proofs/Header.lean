import ProxyHeader.Info
import ProxyHeader.Proofs.AddressBlock
import ProxyHeader.Proofs.Defect
import ProxyHeader.Proofs.Preamble

/-!
# Headers to be written

A `Header` is what a sender puts together: a served family and transport, an address
block of that family's length, and records, all of which fit the declared length.
`Header.encode` is its written form, and `Header.Describes` says what it is read as.

Reading goes through the preamble, the address block and the records in turn
(`Info.read_of_preamble`), and so accepts exactly the written headers, whatever follows
them (`Info.read_eq_ok_iff`). Where the preamble is fine and the records are not, the
error is that of the first defect (`Info.read_of_firstDefect`).
-/

namespace ProxyHeader

/-! ## Reading behind a preamble -/

namespace Preamble

/-- The address block that a preamble declares. -/
def block (p : Preamble) (buf : Bytes) : Bytes :=
  buf.extract preambleLength p.extensionsOffset

theorem extensionsOffset_le_totalLength (p : Preamble) : p.extensionsOffset ≤ p.totalLength :=
  Nat.le_add_right _ _

theorem totalLength_sub (p : Preamble) :
    p.totalLength - p.extensionsOffset = p.extensionsLength :=
  Nat.add_sub_cancel_left _ _

theorem totalLength_le_of_read {buf : Bytes} {p : Preamble} (hp : read buf = .ok p) :
    p.totalLength ≤ buf.length := by
  obtain ⟨-, body, rfl, hle⟩ := read_eq_ok_iff.mp hp
  rw [List.length_append, length_encode, totalLength]
  omega

theorem length_block_of_read {buf : Bytes} {p : Preamble} (hp : read buf = .ok p) :
    (p.block buf).length = p.blockLength := by
  have hle := totalLength_le_of_read hp
  rw [totalLength_eq] at hle
  rw [block, length_extract (by omega), extensionsOffset, Nat.add_sub_cancel_left]

theorem length_block_eq_of_read {buf : Bytes} {p : Preamble} (hp : read buf = .ok p) :
    (p.block buf).length = p.family.blockLength := by
  obtain ⟨hvalid, -⟩ := read_eq_ok_iff.mp hp
  rw [length_block_of_read hp, hvalid.blockLength]

/-- Behind an accepted preamble the address block is decoded. -/
theorem exists_decode_of_read {buf : Bytes} {p : Preamble} (hp : read buf = .ok p) :
    ∃ a, Addresses.decode p.family (p.block buf) = .ok a :=
  Addresses.exists_decode_eq_ok (Nat.le_of_eq (length_block_eq_of_read hp).symm)

/-- An accepted buffer is preamble, address block, records, and what follows them. -/
theorem eq_append_of_read {buf : Bytes} {p : Preamble} (hp : read buf = .ok p) :
    buf = p.encode ++ (p.block buf ++ buf.extract p.extensionsOffset p.totalLength) ++
      buf.drop p.totalLength := by
  obtain ⟨-, body, hbuf, -⟩ := read_eq_ok_iff.mp hp
  have hdrop : buf.drop preambleLength = body := by
    rw [hbuf, ← p.length_encode, List.drop_left]
  rw [block, List.append_assoc, List.append_assoc,
    extract_append_drop buf p.extensionsOffset_le_totalLength,
    extract_append_drop buf (show preambleLength ≤ p.extensionsOffset from Nat.le_add_right _ _),
    hdrop]
  exact hbuf

end Preamble

namespace Info

/-- The walk over all that was received behind the address block. -/
def walk (p : Preamble) (buf : Bytes) : Walk (List Extension) :=
  Extension.walk (buf.drop p.extensionsOffset) p.extensionsLength p.extensionsOffset

/-- Behind a preamble and its addresses the records are walked. -/
theorem read_of_decode {buf : Bytes} {p : Preamble} {a : Addresses}
    (hp : Preamble.read buf = .ok p) (ha : Addresses.decode p.family (p.block buf) = .ok a) :
    read buf = (walk p buf).result.map fun es =>
      ⟨p, a, es, p.warning?.toList ++ addressAnomalies a ++ (walk p buf).anomalies⟩ := by
  have hblock : (buf.drop preambleLength).take p.blockLength = p.block buf := by
    rw [Preamble.block, List.extract_eq_take_drop, Preamble.extensionsOffset,
      Nat.add_sub_cancel_left]
  have hwalk : Extension.walk ((buf.drop preambleLength).drop p.blockLength)
      p.extensionsLength (preambleLength + p.blockLength) = walk p buf := by
    rw [List.drop_drop]
    rfl
  simp only [read, hp, hblock, ha, hwalk, bind, Except.bind, pure, Except.pure]
  cases (walk p buf).result <;> rfl

/-- What is read of the address block, and then of the records, after a preamble. -/
theorem read_of_preamble {buf : Bytes} {p : Preamble} (hp : Preamble.read buf = .ok p) :
    ∃ a, Addresses.OfFamily p.family a ∧ a.encode (p.block buf) = p.block buf ∧
      read buf = (walk p buf).result.map fun es =>
        ⟨p, a, es, p.warning?.toList ++ addressAnomalies a ++ (walk p buf).anomalies⟩ := by
  obtain ⟨a, ha⟩ := Preamble.exists_decode_of_read hp
  obtain ⟨hfamily, -, hencode⟩ := Addresses.decode_eq_ok_iff.mp ha
  rw [← Preamble.length_block_eq_of_read hp, List.take_length] at hencode
  exact ⟨a, hfamily, hencode, read_of_decode hp ha⟩

theorem read_of_tiling {buf : Bytes} {p : Preamble} {es : List ExtensionItem}
    (hp : Preamble.read buf = .ok p)
    (hes : buf.extract p.extensionsOffset p.totalLength = es.flatMap ExtensionItem.encode) :
    ∃ a, Addresses.OfFamily p.family a ∧ a.encode (p.block buf) = p.block buf ∧
      read buf = .ok ⟨p, a, extensionsAt p.extensionsOffset es,
        p.warning?.toList ++ addressAnomalies a ++ anomaliesAt p.extensionsOffset es⟩ := by
  obtain ⟨a, hfamily, hencode, hread⟩ := read_of_preamble hp
  refine ⟨a, hfamily, hencode, ?_⟩
  have hwalk := Extension.walk_of_tiling p.extensionsOffset_le_totalLength
    (Preamble.totalLength_le_of_read hp) hes
  rw [p.totalLength_sub] at hwalk
  rw [hread, walk, hwalk]
  rfl

theorem read_of_firstDefect {buf : Bytes} {p : Preamble} {q : Nat}
    (hp : Preamble.read buf = .ok p)
    (hq : FirstDefect buf p.extensionsOffset p.totalLength q) :
    ∃ e, read buf = .error e ∧ ErrorAt buf p.extensionsOffset p.totalLength q e := by
  obtain ⟨a, -, -, hread⟩ := read_of_preamble hp
  obtain ⟨e, he, herr⟩ := Extension.walk_of_firstDefect (Preamble.totalLength_le_of_read hp) hq
  rw [p.totalLength_sub] at he
  refine ⟨e, ?_, herr⟩
  rw [hread, walk, he]
  rfl

theorem exists_preamble_of_read {buf : Bytes} {i : Info} (h : read buf = .ok i) :
    ∃ p, Preamble.read buf = .ok p := by
  cases hp : Preamble.read buf with
  | ok p => exact ⟨p, rfl⟩
  | error e => simp [read, hp, bind, Except.bind] at h

end Info

/-! ## Headers -/

/-- What a sender puts into a header: a served family and transport, an address block of
that family's length and records, which the declared length has room for. -/
structure Header where
  family : Family
  transport : Transport
  block : Bytes
  records : List ExtensionItem
  family_ne_unspec : family ≠ .unspec
  transport_ne_unspec : transport ≠ .unspec
  length_block : block.length = family.blockLength
  length_le : block.length + (records.flatMap ExtensionItem.encode).length ≤ 65535

namespace Header

/-- The preamble of a header. -/
def preamble (h : Header) : Preamble :=
  ⟨.proxy, h.family, h.transport, h.family.blockLength,
    (h.records.flatMap ExtensionItem.encode).length⟩

/-- The written form: preamble, address block, records. -/
def encode (h : Header) : Bytes :=
  h.preamble.encode ++ (h.block ++ h.records.flatMap ExtensionItem.encode)

/-- What a header is read as. -/
structure Describes (h : Header) (i : Info) : Prop where
  preamble : i.preamble = h.preamble
  family : Addresses.OfFamily h.family i.addresses
  block : i.addresses.encode h.block = h.block
  extensions : i.extensions = extensionsAt h.preamble.extensionsOffset h.records
  anomalies : i.anomalies = h.preamble.warning?.toList ++ Info.addressAnomalies i.addresses ++
    anomaliesAt h.preamble.extensionsOffset h.records

theorem isValid_preamble (h : Header) : h.preamble.IsValid where
  command := rfl
  family := h.family_ne_unspec
  transport := h.transport_ne_unspec
  blockLength := rfl
  declared_lt := by
    have := h.length_le
    have := h.length_block
    simp only [preamble]
    omega

theorem length_encode (h : Header) : h.encode.length = h.preamble.totalLength := by
  rw [encode, List.length_append, Preamble.length_encode, List.length_append, h.length_block,
    ← Nat.add_assoc]
  rfl

theorem read_preamble (h : Header) (t : Bytes) :
    Preamble.read (h.encode ++ t) = .ok h.preamble := by
  refine Preamble.read_eq_ok_iff.mpr ⟨h.isValid_preamble,
    h.block ++ h.records.flatMap ExtensionItem.encode ++ t, ?_, ?_⟩
  · rw [encode, List.append_assoc]
  · rw [List.length_append, List.length_append, h.length_block]
    exact Nat.le_add_right _ _

theorem block_encode (h : Header) (t : Bytes) : h.preamble.block (h.encode ++ t) = h.block := by
  have hlen : preambleLength + h.block.length = h.preamble.extensionsOffset := by
    rw [h.length_block]
    rfl
  rw [Preamble.block, ← hlen, encode, List.append_assoc, List.append_assoc]
  exact extract_append_append h.preamble.encode h.block _

theorem records_encode (h : Header) (t : Bytes) :
    (h.encode ++ t).extract h.preamble.extensionsOffset h.preamble.totalLength =
      h.records.flatMap ExtensionItem.encode := by
  have hlen : (h.preamble.encode ++ h.block).length = h.preamble.extensionsOffset := by
    rw [List.length_append, Preamble.length_encode, h.length_block]
    rfl
  rw [h.preamble.totalLength_eq, ← hlen, encode, ← List.append_assoc, List.append_assoc]
  exact extract_append_append (h.preamble.encode ++ h.block) _ t

/-- A written header is read as what it says, whatever follows it. -/
theorem exists_read_eq_ok (h : Header) (t : Bytes) :
    ∃ a, Addresses.OfFamily h.family a ∧ a.encode h.block = h.block ∧
      Info.read (h.encode ++ t) = .ok ⟨h.preamble, a,
        extensionsAt h.preamble.extensionsOffset h.records,
        h.preamble.warning?.toList ++ Info.addressAnomalies a ++
          anomaliesAt h.preamble.extensionsOffset h.records⟩ := by
  obtain ⟨a, hfamily, hblock, hread⟩ :=
    Info.read_of_tiling (h.read_preamble t) (h.records_encode t)
  rw [h.block_encode] at hblock
  exact ⟨a, hfamily, hblock, hread⟩

end Header

namespace Info

/-- Reading accepts exactly the written headers, whatever follows them. -/
theorem read_eq_ok_iff {buf : Bytes} {i : Info} : read buf = .ok i ↔
    ∃ (h : Header) (t : Bytes), buf = h.encode ++ t ∧ h.Describes i := by
  constructor
  · intro hread
    obtain ⟨p, hp⟩ := exists_preamble_of_read hread
    have hle := Preamble.totalLength_le_of_read hp
    rcases tiled_or_firstDefect p.extensionsOffset_le_totalLength hle with ⟨es, hes⟩ | ⟨q, hq⟩
    · obtain ⟨a, hfamily, hblock, hread'⟩ := read_of_tiling hp hes
      obtain rfl := Except.ok.inj (hread.symm.trans hread')
      obtain ⟨hvalid, -⟩ := Preamble.read_eq_ok_iff.mp hp
      have hlen := Preamble.length_block_of_read hp
      have hrecords := congrArg List.length hes
      rw [length_extract hle, p.totalLength_sub] at hrecords
      have hdeclared := hvalid.declared_lt
      have hpreamble : p = ⟨.proxy, p.family, p.transport, p.family.blockLength,
          (es.flatMap ExtensionItem.encode).length⟩ := by
        rw [← hrecords, ← hvalid.command, ← hvalid.blockLength]
      refine ⟨⟨p.family, p.transport, p.block buf, es, hvalid.family, hvalid.transport,
        hlen.trans hvalid.blockLength, by omega⟩, buf.drop p.totalLength, ?_, ?_⟩
      · have hbuf := p.eq_append_of_read hp
        rw [hes] at hbuf
        rw [Header.encode, Header.preamble, ← hpreamble]
        exact hbuf
      · refine ⟨hpreamble, hfamily, hblock, ?_, ?_⟩
        · rw [Header.preamble, ← hpreamble]
        · rw [Header.preamble, ← hpreamble]
    · obtain ⟨e, he, -⟩ := read_of_firstDefect hp hq
      rw [hread] at he
      simp at he
  · rintro ⟨h, t, rfl, hi⟩
    obtain ⟨a, hfamily, hblock, hread⟩ := h.exists_read_eq_ok t
    obtain rfl := Addresses.eq_of_encode_eq h.length_block hi.family hi.block hfamily hblock
    rw [hread, ← hi.anomalies, ← hi.extensions, ← hi.preamble]

/-- An accepted header has the preamble that is read of it. -/
theorem preamble_of_read {buf : Bytes} {i : Info} (h : read buf = .ok i) :
    Preamble.read buf = .ok i.preamble := by
  obtain ⟨header, t, rfl, hi⟩ := read_eq_ok_iff.mp h
  rw [hi.preamble]
  exact header.read_preamble t

end Info

/-! ## What was read, written again -/

/-- The written form of an extension. -/
def Extension.encode (e : Extension) : Bytes :=
  Record.encode e.kind.code e.payload

/-- The written form of all that was read, with `paths` in the place of socket paths. -/
def Info.encode (paths : Bytes) (i : Info) : Bytes :=
  i.preamble.encode ++ (i.addresses.encode paths ++ i.extensions.flatMap Extension.encode)

theorem flatMap_encode_extensionsAt :
    ∀ (offset : Nat) (es : List ExtensionItem),
      (extensionsAt offset es).flatMap Extension.encode = es.flatMap ExtensionItem.encode
  | _, [] => rfl
  | offset, e :: es => by
    have he : (e.extension offset).encode = e.encode := by
      show Record.encode (ExtensionKind.ofCode e.item.code).code e.item.payload = e.encode
      rw [ExtensionKind.code_ofCode]
      rfl
    rw [extensionsAt_cons, List.flatMap_cons, List.flatMap_cons, he,
      flatMap_encode_extensionsAt (offset + e.encode.length) es]

/-- What was read is written again as the header it was read from, but for socket
paths. -/
theorem Header.Describes.encode_eq {h : Header} {i : Info} (hi : h.Describes i)
    (paths : Bytes) : i.encode paths = h.preamble.encode ++
      (i.addresses.encode paths ++ h.records.flatMap ExtensionItem.encode) := by
  rw [Info.encode, hi.preamble, hi.extensions, flatMap_encode_extensionsAt]

end ProxyHeader
