import ProxyHeader.Proofs.Dump
import ProxyHeader.Proofs.Findings
import ProxyHeader.Proofs.Opening

/-!
# What address bytes have a say in

Two buffers that differ in the bytes of the address block only (`SameButBlock`) have the same
preamble and the same bytes behind the block, and the number of bytes received is the same.
This is all that a refusal, the records and the findings are made from, so that the two are
refused for the same reason and with the same bytes shown, or are both accepted and differ in
their addresses only (`Info.read_sameButBlock`).

Of socket paths nothing is kept, so that with them nothing differs at all.
-/

namespace ProxyHeader

/-! ## The block of a buffer -/

/-- The family that the 14th byte names. -/
def namedFamily? (buf : Bytes) : Option Family :=
  Family.ofNibble? (byteAt buf 13 >>> 4)

/-- Where the address block of the family that the 14th byte names ends. A byte that names
none leaves no room for a block. -/
def namedBlockEnd (buf : Bytes) : Nat :=
  preambleLength + ((namedFamily? buf).map Family.blockLength).getD 0

/-- Two buffers are as long as each other and the same outside of the address block. -/
structure SameButBlock (a b : Bytes) : Prop where
  length : a.length = b.length
  before : a.take preambleLength = b.take preambleLength
  behind : a.drop (namedBlockEnd a) = b.drop (namedBlockEnd a)

theorem shiftRight_protocolByte (f : Family) (t : Transport) :
    protocolByte f t >>> 4 = f.nibble := by
  cases f <;> cases t <;> rfl

namespace Preamble

variable {a : Bytes}

/-- The family of an accepted preamble is the one that its 14th byte names. -/
theorem namedFamily?_of_read {p : Preamble} (hp : read a = .ok p) :
    namedFamily? a = some p.family := by
  obtain ⟨-, body, rfl, -⟩ := read_eq_ok_iff.mp hp
  have hbyte : byteAt (p.encode ++ body) 13 = protocolByte p.family p.transport := rfl
  rw [namedFamily?, hbyte, shiftRight_protocolByte, Family.ofNibble?_eq_some_iff]

theorem namedBlockEnd_of_read {p : Preamble} (hp : read a = .ok p) :
    namedBlockEnd a = p.extensionsOffset := by
  obtain ⟨hvalid, -⟩ := read_eq_ok_iff.mp hp
  rw [namedBlockEnd, namedFamily?_of_read hp, extensionsOffset, hvalid.blockLength]
  rfl

end Preamble

/-! ## What is made from the rest -/

namespace SameButBlock

variable {a b : Bytes}

theorem read_preamble (h : SameButBlock a b) : Preamble.read a = Preamble.read b :=
  Preamble.read_congr h.length h.before

/-- The bytes behind the block of an accepted preamble are the same. -/
theorem drop_extensionsOffset (h : SameButBlock a b) {p : Preamble}
    (hp : Preamble.read a = .ok p) : a.drop p.extensionsOffset = b.drop p.extensionsOffset := by
  rw [← Preamble.namedBlockEnd_of_read hp]
  exact h.behind

theorem walk_eq (h : SameButBlock a b) {p : Preamble} (hp : Preamble.read a = .ok p) :
    Info.walk p a = Info.walk p b := by
  rw [Info.walk, Info.walk, h.drop_extensionsOffset hp]

/-- The same bytes are shown with every error. -/
theorem extensionBytes?_eq (h : SameButBlock a b) (e : HeaderError) :
    Info.extensionBytes? e a = Info.extensionBytes? e b := by
  have hregion : ∀ p, Preamble.read a = .ok p →
      a.extract p.extensionsOffset p.totalLength = b.extract p.extensionsOffset p.totalLength := by
    intro p hp
    rw [List.extract_eq_take_drop, List.extract_eq_take_drop, h.drop_extensionsOffset hp]
  refine Option.ext fun bytes => ?_
  rw [Info.extensionBytes?_eq_some_iff, Info.extensionBytes?_eq_some_iff, ← h.read_preamble]
  refine and_congr_right fun _ => exists_congr fun p => and_congr_right fun hp => ?_
  rw [hregion p hp]

/-- A refusal is reported alike. -/
theorem errorText_eq (h : SameButBlock a b) (e : HeaderError) :
    Report.errorText e a = Report.errorText e b := by
  rw [Report.errorText, Report.errorText, h.extensionBytes?_eq]

theorem errorJson_eq (h : SameButBlock a b) (e : HeaderError) :
    Report.errorJson e a = Report.errorJson e b := by
  rw [Report.errorJson, Report.errorJson, h.extensionBytes?_eq]

/-- Where both are read alike, all that is printed is the same. -/
theorem render_eq (h : SameButBlock a b) (hread : Info.read a = Info.read b)
    (format : Report.Format) : Report.render format a = Report.render format b := by
  unfold Report.render
  rw [hread]
  cases Info.read b with
  | ok i => cases format <;> rfl
  | error e =>
    cases format with
    | text => simp only [h.errorText_eq e]
    | json => simp only [h.errorJson_eq e]

/-- Both buffers are read with a walk of the same outcome, behind addresses of one family. -/
theorem exists_addresses (h : SameButBlock a b) {p : Preamble} (hp : Preamble.read a = .ok p) :
    ∃ x y, Addresses.OfFamily p.family x ∧ Addresses.OfFamily p.family y ∧
      Info.read a = (Info.walk p a).result.map (fun es =>
        ⟨p, x, es, p.warning?.toList ++ Info.addressAnomalies x ++ (Info.walk p a).anomalies⟩) ∧
      Info.read b = (Info.walk p a).result.map (fun es =>
        ⟨p, y, es, p.warning?.toList ++ Info.addressAnomalies x ++
          (Info.walk p a).anomalies⟩) := by
  obtain ⟨x, hx, -, ha⟩ := Info.read_of_preamble hp
  obtain ⟨y, hy, -, hb⟩ := Info.read_of_preamble (h.read_preamble ▸ hp)
  have hanomalies : Info.addressAnomalies y = Info.addressAnomalies x := by
    rw [hx.addressAnomalies_eq, hy.addressAnomalies_eq]
  rw [← h.walk_eq hp, hanomalies] at hb
  exact ⟨x, y, hx, hy, ha, hb⟩

end SameButBlock

/-! ## The two readings -/

/-- Buffers that differ in their address blocks only are refused for the same reason and with
the same report, or are both accepted with the same preamble, records and findings. For
sockets on one host both readings, and so all reports on them, are the same. -/
theorem Info.read_sameButBlock {a b : Bytes} (h : SameButBlock a b) :
    ((∃ e, read a = .error e ∧ read b = .error e ∧
        Report.errorText e a = Report.errorText e b ∧
        Report.errorJson e a = Report.errorJson e b) ∨
      ∃ i j, read a = .ok i ∧ read b = .ok j ∧ i.preamble = j.preamble ∧
        i.extensions = j.extensions ∧ i.anomalies = j.anomalies) ∧
    (namedFamily? a = some .unix →
      read a = read b ∧ ∀ format, Report.render format a = Report.render format b) := by
  have hreports := fun e => And.intro (h.errorText_eq e) (h.errorJson_eq e)
  cases hp : Preamble.read a with
  | error e =>
    have ha := read_of_preamble_eq_error hp
    have hb := read_of_preamble_eq_error (h.read_preamble ▸ hp)
    have hread : read a = read b := ha.trans hb.symm
    exact ⟨Or.inl ⟨e, ha, hb, hreports e⟩, fun _ => ⟨hread, h.render_eq hread⟩⟩
  | ok p =>
    obtain ⟨x, y, hx, hy, ha, hb⟩ := h.exists_addresses hp
    constructor
    · cases hwalk : (walk p a).result with
      | error e =>
        rw [hwalk] at ha hb
        exact Or.inl ⟨e, ha, hb, hreports e⟩
      | ok es =>
        rw [hwalk] at ha hb
        exact Or.inr ⟨_, _, ha, hb, rfl, rfl, rfl⟩
    · intro hunix
      have hfamily : p.family = .unix := by
        rw [Preamble.namedFamily?_of_read hp] at hunix
        exact Option.some.inj hunix
      rw [hfamily] at hx hy
      cases hx
      cases hy
      have hread : read a = read b := ha.trans hb.symm
      exact ⟨hread, h.render_eq hread⟩

/-- A header with the given bytes for socket paths, and one record. -/
def socketHeader (paths : Bytes) : Bytes :=
  signature ++ [0x21, 0x31, 0x00, 0xDD] ++ paths ++ [0x01, 0x00, 0x02, 0x68, 0x32]

/-- Paths that look like records do not show. -/
theorem Info.read_sameButBlock_socketHeader :
    read (socketHeader (List.replicate 216 0x2F)) =
        read (socketHeader (List.replicate 72 [0x20, 0x00, 0x01]).flatten) ∧
      read (socketHeader (List.replicate 216 0x2F)) =
        .ok ⟨⟨.proxy, .unix, .stream, 216, 5⟩, .unix, [⟨.alpn, 232, [0x68, 0x32], none⟩],
          [.unixAddress]⟩ := by
  have h : SameButBlock (socketHeader (List.replicate 216 0x2F))
      (socketHeader (List.replicate 72 [0x20, 0x00, 0x01]).flatten) :=
    ⟨by decide +kernel, by decide +kernel, by decide +kernel⟩
  have hunix : namedFamily? (socketHeader (List.replicate 216 0x2F)) = some .unix := by
    decide +kernel
  exact ⟨((read_sameButBlock h).2 hunix).1, by decide +kernel⟩

end ProxyHeader
