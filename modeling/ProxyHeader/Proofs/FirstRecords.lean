import ProxyHeader.Proofs.Findings
import ProxyHeader.Proofs.ValidText

/-!
# The first record of a type

What is asked for by name is that of the first record with the name's type code, on the wire
as among the extensions. `IsFirst` says that an entry is the first of a list with a property,
and `Preamble.records` are the records of a buffer, split off by their lengths alone.

`Info.FirstOnWire` says of an accepted header that application protocol, host name and TLS
session are those of the first records with the type codes for them, and that version and
cipher are the texts of the first records of their types inside the TLS value, if these are
valid. `Info.first_of_read` says that this is so, whatever records stand between.
-/

namespace ProxyHeader

/-! ## The first entry with a property -/

section

variable {α : Type} {p : α → Prop} {l : List α}

/-- The first entry of a list that has a property. -/
def IsFirst (p : α → Prop) (l : List α) (a : α) : Prop :=
  ∃ front behind, l = front ++ a :: behind ∧ p a ∧ ∀ b ∈ front, ¬ p b

theorem find?_eq_some_iff_isFirst [DecidablePred p] {a : α} :
    l.find? (fun x => decide (p x)) = some a ↔ IsFirst p l a := by
  rw [List.find?_eq_some_iff_append]
  simp only [decide_eq_true_eq, Bool.not_eq_true', decide_eq_false_iff_not]
  constructor
  · rintro ⟨ha, front, behind, rfl, hfront⟩
    exact ⟨front, behind, rfl, ha, hfront⟩
  · rintro ⟨front, behind, rfl, ha, hfront⟩
    exact ⟨ha, front, behind, rfl, hfront⟩

/-- What is given is made of the first entry with a property, and nothing is given if there
is none. -/
structure IsOfFirst {β : Type} (p : α → Prop) (l : List α) (make : α → β → Prop)
    (given : Option β) : Prop where
  some_iff : ∀ b, given = some b ↔ ∃ a, IsFirst p l a ∧ make a b
  none_iff : given = none ↔ ∀ a ∈ l, ¬ p a

/-- The text given is that of the first entry with a property, and is given if it is valid. -/
def IsTextOfFirst (p : α → Prop) (payload : α → Bytes) (l : List α) (given : Option String) :
    Prop :=
  ∀ t, given = some t ↔ ∃ a, IsFirst p l a ∧ Utf8.encode t = payload a

/-- What is looked up in a list is made of the first entry of another, if its entries are made
into those of the other one and something is made of every entry with the property. -/
theorem isOfFirst_bind [DecidablePred p] {β γ : Type} {xs : List γ} {f : γ → α}
    {look : γ → Option β} {make : α → β → Prop}
    (hlook : ∀ x, p (f x) → (look x).isSome = true ∧ ∀ b, look x = some b ↔ make (f x) b) :
    IsOfFirst p (xs.map f) make ((xs.find? fun x => decide (p (f x))).bind look) := by
  have hfirst : ∀ a, IsFirst p (xs.map f) a ↔
      ∃ x, xs.find? (fun x => decide (p (f x))) = some x ∧ f x = a := by
    intro a
    rw [← find?_eq_some_iff_isFirst, List.find?_map, Option.map_eq_some_iff]
    rfl
  have hfound : ∀ {x}, xs.find? (fun x => decide (p (f x))) = some x → p (f x) := fun hx => by
    simpa using List.find?_some hx
  constructor
  · intro b
    simp only [Option.bind_eq_some_iff, hfirst]
    constructor
    · rintro ⟨x, hx, hb⟩
      exact ⟨f x, ⟨x, hx, rfl⟩, ((hlook x (hfound hx)).2 b).mp hb⟩
    · rintro ⟨_, ⟨x, hx, rfl⟩, hb⟩
      exact ⟨x, hx, ((hlook x (hfound hx)).2 b).mpr hb⟩
  · rw [Option.bind_eq_none_iff, List.forall_mem_map]
    constructor
    · intro hnone
      have hempty : xs.find? (fun x => decide (p (f x))) = none := by
        refine Option.eq_none_iff_forall_ne_some.mpr fun x hx => ?_
        have hsome := (hlook x (hfound hx)).1
        rw [hnone x hx] at hsome
        exact nomatch hsome
      simpa only [List.find?_eq_none, decide_eq_true_eq] using hempty
    · intro hnone x hx
      exact absurd (hfound hx) (hnone x (List.mem_of_find?_eq_some hx))

theorem isTextOfFirst_bind [DecidablePred p] (payload : α → Bytes) :
    IsTextOfFirst p payload l
      ((l.find? fun a => decide (p a)).bind fun a => Utf8.decode? (payload a)) := by
  intro t
  simp only [Option.bind_eq_some_iff, find?_eq_some_iff_isFirst, Utf8.decode?_eq_some_iff]

end

/-! ## Records on the wire -/

/-- The record has a type code. -/
def HasCode (code : UInt8) (r : Nat × Item) : Prop :=
  r.2.code = code

instance (code : UInt8) : DecidablePred (HasCode code) := fun r =>
  inferInstanceAs (Decidable (r.2.code = code))

/-- The records that a buffer holds behind the address block, each with its offset. -/
def Preamble.records (p : Preamble) (buf : Bytes) : List (Nat × Item) :=
  located Item.encode p.extensionsOffset
    (Item.split (buf.extract p.extensionsOffset p.totalLength))

/-- All that is looked up in an accepted header is that of first records on the wire. -/
structure Info.FirstOnWire (buf : Bytes) (i : Info) : Prop where
  /-- The records are all that the declared bytes hold. -/
  filled : (i.preamble.records buf).flatMap (fun r => r.2.encode) =
    buf.extract i.preamble.extensionsOffset i.preamble.totalLength
  /-- The extensions are the records, one for one. -/
  extensions : i.extensions.map (fun e => (e.offset, e.kind.code, e.payload)) =
    (i.preamble.records buf).map fun r => (r.1, r.2.code, r.2.payload)
  alpn : IsOfFirst (HasCode 0x01) (i.preamble.records buf) (fun r bs => r.2.payload = bs) i.alpn?
  authority : IsOfFirst (HasCode 0x02) (i.preamble.records buf) (fun r bs => r.2.payload = bs)
    i.authority?
  ssl : IsOfFirst (HasCode 0x20) (i.preamble.records buf)
    (fun r s => (SslInfo.read r.2.payload (r.1 + recordHeaderLength)).result = .ok s) i.ssl?
  /-- A TLS value belongs to every record that is for TLS. -/
  decoded : ∀ e ∈ i.extensions, e.ssl?.isSome = true ↔ e.kind = .ssl
  /-- No type that is decoded is taken for an unknown one. -/
  unknown : ∀ e ∈ i.extensions, ∀ code, e.kind = .unknown code → code ∉ [0x01, 0x02, 0x20]
  /-- The records inside a TLS value are all that it holds behind its opening. -/
  subFilled : ∀ e ∈ i.extensions, e.kind = .ssl →
    e.subRecords.flatMap (fun r => r.2.encode) = e.payload.drop SslInfo.headerLength
  version : ∀ e ∈ i.extensions, ∀ s, e.ssl? = some s →
    IsTextOfFirst (HasCode 0x21) (fun r => r.2.payload) e.subRecords s.version?
  cipher : ∀ e ∈ i.extensions, ∀ s, e.ssl? = some s →
    IsTextOfFirst (HasCode 0x23) (fun r => r.2.payload) e.subRecords s.cipher?

theorem located_map_item : ∀ (offset : Nat) (es : List ExtensionItem),
    located Item.encode offset (es.map ExtensionItem.item) =
      (located ExtensionItem.encode offset es).map fun (o, e) => (o, e.item)
  | _, [] => rfl
  | offset, e :: es => by
    rw [List.map_cons, located, located, List.map_cons, located_map_item]
    rfl

/-- The records of a written header are split off one by one. -/
theorem Header.records_eq (h : Header) (t : Bytes) :
    h.preamble.records (h.encode ++ t) =
      (located ExtensionItem.encode h.preamble.extensionsOffset h.records).map
        fun (o, e) => (o, e.item) := by
  have hitems : h.records.flatMap ExtensionItem.encode =
      (h.records.map ExtensionItem.item).flatMap Item.encode := by
    rw [List.flatMap_map]
    rfl
  rw [Preamble.records, h.records_encode, hitems, Item.split_flatMap_encode, located_map_item]

theorem Header.flatMap_records (h : Header) (t : Bytes) :
    (h.preamble.records (h.encode ++ t)).flatMap (fun r => r.2.encode) =
      (h.encode ++ t).extract h.preamble.extensionsOffset h.preamble.totalLength := by
  rw [h.records_eq, List.flatMap_map, h.records_encode]
  exact flatMap_located ExtensionItem.encode _ h.records

/-! ## The first extension of a kind -/

theorem ExtensionKind.ofCode_eq_iff {k : ExtensionKind} (hk : ofCode k.code = k) {b : UInt8} :
    ofCode b = k ↔ b = k.code := by
  constructor
  · intro h
    rw [← code_ofCode b, h]
  · rintro rfl
    exact hk

theorem ExtensionKind.not_mem_of_ofCode_eq_unknown {b code : UInt8}
    (h : ofCode b = .unknown code) : code ∉ [0x01, 0x02, 0x20] := by
  obtain rfl : b = code := (code_ofCode b).symm.trans (congrArg ExtensionKind.code h)
  intro hmem
  simp only [List.mem_cons, List.not_mem_nil, or_false] at hmem
  rcases hmem with rfl | rfl | rfl <;> nomatch h

namespace Header.Describes

variable {h : Header} {i : Info}

/-- What is looked up in the first extension of a kind is that of the first record. -/
theorem isOfFirst (hi : h.Describes i) (t : Bytes) (kind : ExtensionKind)
    (hkind : .ofCode kind.code = kind) {β : Type} {look : Extension → Option β}
    {make : Nat × Item → β → Prop}
    (hlook : ∀ o (e : ExtensionItem), e.item.code = kind.code →
      (look (e.extension o)).isSome = true ∧
        ∀ b, look (e.extension o) = some b ↔ make (o, e.item) b) :
    IsOfFirst (HasCode kind.code) (h.preamble.records (h.encode ++ t)) make
      ((i.find? kind).bind look) := by
  have hcode : ∀ x : Nat × ExtensionItem, (x.2.extension x.1).kind = kind ↔
      HasCode kind.code (x.1, x.2.item) := fun x => ExtensionKind.ofCode_eq_iff hkind
  have hfind : i.find? kind = ((located ExtensionItem.encode h.preamble.extensionsOffset
      h.records).find? fun x => decide (HasCode kind.code (x.1, x.2.item))).map
        fun x => x.2.extension x.1 := by
    rw [Info.find?, hi.extensions, extensionsAt, List.find?_map]
    congr 2
    funext x
    exact decide_eq_decide.mpr (hcode x)
  rw [hfind, Option.bind_map, h.records_eq]
  exact isOfFirst_bind fun x hx => hlook x.1 x.2 hx

theorem isOfFirst_payload (hi : h.Describes i) (t : Bytes) (kind : ExtensionKind)
    (hkind : .ofCode kind.code = kind) :
    IsOfFirst (HasCode kind.code) (h.preamble.records (h.encode ++ t))
      (fun r bs => r.2.payload = bs) ((i.find? kind).map (·.payload)) := by
  rw [Option.map_eq_bind]
  exact hi.isOfFirst t kind hkind fun o e _ => ⟨rfl, fun bs => Option.some_inj⟩

/-- The first record for TLS has a TLS value, which is what is read of it. -/
theorem isOfFirst_ssl (hi : h.Describes i) (t : Bytes) :
    IsOfFirst (HasCode 0x20) (h.preamble.records (h.encode ++ t))
      (fun r s => (SslInfo.read r.2.payload (r.1 + recordHeaderLength)).result = .ok s)
      i.ssl? := by
  refine hi.isOfFirst t .ssl rfl fun o e hcode => ?_
  cases e with
  | tls v hv =>
    refine ⟨rfl, fun s => ?_⟩
    show some (v.info (o + recordHeaderLength)) = some s ↔
      (SslInfo.read v.encode (o + recordHeaderLength)).result = .ok s
    rw [SslInfo.read_encode, Option.some_inj, Except.ok.injEq]
  | other item hne => exact absurd hcode hne

end Header.Describes

/-! ## Texts inside a TLS value -/

/-- The first record that is kept as one of a kind is the first with its type code. -/
theorem find?_filterMap_subExtension? (kind : SubKind) : ∀ rs : List (Nat × Item),
    (rs.filterMap fun (o, item) => item.subExtension? o).find? (fun sub =>
        decide (sub.kind = kind)) =
      (rs.find? fun r => decide (HasCode kind.code r)).map
        fun (o, item) => ⟨kind, o, item.payload⟩
  | [] => rfl
  | (o, item) :: rs => by
    have ih := find?_filterMap_subExtension? kind rs
    by_cases hcode : item.code = kind.code
    · have hsub : item.subExtension? o = some ⟨kind, o, item.payload⟩ :=
        Item.subExtension?_eq_some_iff.mpr ⟨rfl, rfl, hcode.symm⟩
      have hhas : HasCode kind.code (o, item) := hcode
      simp only [List.filterMap_cons, hsub]
      rw [List.find?_cons_of_pos (by simp), List.find?_cons_of_pos (by simpa using hhas),
        Option.map_some]
    · have hhas : ¬ HasCode kind.code (o, item) := hcode
      rw [List.find?_cons_of_neg (by simpa using hhas), ← ih]
      cases hsub : item.subExtension? o with
      | none => simp only [List.filterMap_cons, hsub]
      | some sub =>
        have hkind : sub.kind ≠ kind := by
          rintro rfl
          exact hcode (Item.subExtension?_eq_some_iff.mp hsub).2.2.symm
        simp only [List.filterMap_cons, hsub]
        rw [List.find?_cons_of_neg (by simpa using hkind)]

/-- The text of the first record of a kind in a TLS value, wherever records of other types
stand, is that of the first on the wire. -/
theorem SslInfo.isTextOfFirst {s : SslInfo} {rs : List (Nat × Item)}
    (hs : s.subExtensions = rs.filterMap fun (o, item) => item.subExtension? o)
    (kind : SubKind) : IsTextOfFirst (HasCode kind.code) (fun r => r.2.payload) rs
      (s.text? kind) := by
  rw [text?, hs, find?_filterMap_subExtension?, Option.bind_map]
  exact isTextOfFirst_bind _

/-- An extension with a TLS value keeps of it what is kept of the records inside. -/
theorem ExtensionItem.subExtensions_of_ssl? {e : ExtensionItem} {o : Nat} {s : SslInfo}
    (hs : (e.extension o).ssl? = some s) : s.subExtensions =
      (e.extension o).subRecords.filterMap fun (o, item) => item.subExtension? o := by
  cases e with
  | tls v hv =>
    obtain rfl := Option.some.inj hs
    rw [subRecords_extension]
    rfl
  | other item hne => nomatch hs

theorem ExtensionItem.flatMap_subRecords_of_ssl? {e : ExtensionItem} {o : Nat} {s : SslInfo}
    (hs : (e.extension o).ssl? = some s) :
    (e.extension o).subRecords.flatMap (fun r => r.2.encode) =
      (e.extension o).payload.drop SslInfo.headerLength := by
  cases e with
  | tls v hv =>
    rw [subRecords_extension]
    exact flatMap_located Item.encode _ v.items
  | other item hne => nomatch hs

/-! ## What is looked up -/

namespace Header.Describes

variable {h : Header} {i : Info}

theorem firstOnWire (hi : h.Describes i) (t : Bytes) : i.FirstOnWire (h.encode ++ t) := by
  have hextension : ∀ e ∈ i.extensions, ∃ (o : Nat) (item : ExtensionItem),
      item.extension o = e := by
    rw [hi.extensions]
    exact fun e he => (List.mem_map.mp he).elim fun x hx => ⟨x.1, x.2, hx.2⟩
  have hdecoded : ∀ e ∈ i.extensions, e.ssl?.isSome = true ↔ e.kind = .ssl := fun e he =>
    (hi.standsIn t he).1.symm
  constructor
  case decoded => exact hdecoded
  case filled =>
    rw [hi.preamble]
    exact h.flatMap_records t
  case extensions =>
    rw [hi.preamble, h.records_eq, hi.extensions, extensionsAt, List.map_map, List.map_map]
    refine List.map_congr_left fun x _ => ?_
    simp only [Function.comp_apply, ExtensionItem.extension, ExtensionKind.code_ofCode]
  case alpn =>
    rw [hi.preamble]
    exact hi.isOfFirst_payload t .alpn rfl
  case authority =>
    rw [hi.preamble]
    exact hi.isOfFirst_payload t .authority rfl
  case ssl =>
    rw [hi.preamble]
    exact hi.isOfFirst_ssl t
  case unknown =>
    intro e he code hkind
    obtain ⟨o, item, rfl⟩ := hextension e he
    exact ExtensionKind.not_mem_of_ofCode_eq_unknown hkind
  case subFilled =>
    intro e he hkind
    obtain ⟨s, hs⟩ := Option.isSome_iff_exists.mp ((hdecoded e he).mpr hkind)
    obtain ⟨o, item, rfl⟩ := hextension e he
    exact ExtensionItem.flatMap_subRecords_of_ssl? hs
  case version =>
    intro e he s hs
    obtain ⟨o, item, rfl⟩ := hextension e he
    exact SslInfo.isTextOfFirst (ExtensionItem.subExtensions_of_ssl? hs) .version
  case cipher =>
    intro e he s hs
    obtain ⟨o, item, rfl⟩ := hextension e he
    exact SslInfo.isTextOfFirst (ExtensionItem.subExtensions_of_ssl? hs) .cipher

end Header.Describes

/-- What is looked up in a TLS value is the text of the first record that it keeps of a kind, if
that is valid, and what is looked up in an accepted header is that of the first records of
their types on the wire. -/
theorem Info.first_of_read :
    (∀ s : SslInfo,
      IsTextOfFirst (fun sub => sub.kind = .version) SubExtension.payload s.subExtensions
        s.version? ∧
      IsTextOfFirst (fun sub => sub.kind = .cipher) SubExtension.payload s.subExtensions
        s.cipher?) ∧
    ∀ (buf : Bytes) (i : Info), read buf = .ok i → FirstOnWire buf i := by
  refine ⟨fun s => ⟨isTextOfFirst_bind _, isTextOfFirst_bind _⟩, fun buf i hread => ?_⟩
  obtain ⟨header, t, rfl, hi⟩ := read_eq_ok_iff.mp hread
  exact hi.firstOnWire t

/-- A header with two protocols and two TLS sessions, the first of which has two versions: one
that is no valid text, behind a record of an unknown type, and one that is. -/
def repeatedHeader : Header :=
  { tlsHeader with
    records := [.other ⟨0x04, [0x31, 0x30], by decide, by decide⟩ (by decide),
      .other ⟨0x01, [0x68, 0x32], by decide, by decide⟩ (by decide),
      .other ⟨0x01, [0x68, 0x33], by decide, by decide⟩ (by decide),
      .tls ⟨0x01, 0, [⟨0x22, [0x61, 0x62], by decide, by decide⟩,
        ⟨0x21, [0xFF, 0x31], by decide, by decide⟩, ⟨0x21, [0x31, 0x33], by decide, by decide⟩,
        ⟨0x23, [0x43, 0x31], by decide, by decide⟩]⟩ (by decide),
      .tls ⟨0x00, 0, []⟩ (by decide)]
    length_le := by decide +kernel }

/-- What is read of the first TLS session of `repeatedHeader`. -/
def repeatedSsl : SslInfo :=
  ⟨0x01, 0, [⟨.version, 56, [0xFF, 0x31]⟩, ⟨.version, 61, [0x31, 0x33]⟩,
    ⟨.cipher, 66, [0x43, 0x31]⟩]⟩

/-- What is read of `repeatedHeader`. -/
def repeatedInfo : Info :=
  { tlsInfo with
    preamble := ⟨.proxy, .inet, .stream, 12, 51⟩
    extensions := [⟨.unknown 0x04, 28, [0x31, 0x30], none⟩, ⟨.alpn, 33, [0x68, 0x32], none⟩,
      ⟨.alpn, 38, [0x68, 0x33], none⟩,
      ⟨.ssl, 43, [0x01, 0, 0, 0, 0, 0x22, 0, 2, 0x61, 0x62, 0x21, 0, 2, 0xFF, 0x31,
        0x21, 0, 2, 0x31, 0x33, 0x23, 0, 2, 0x43, 0x31], some repeatedSsl⟩,
      ⟨.ssl, 71, [0, 0, 0, 0, 0], some ⟨0, 0, []⟩⟩]
    anomalies := [.unknownExtension 28 0x04, .unknownSubtype 51 0x22] }

theorem Info.first_of_read_repeatedHeader :
    read (repeatedHeader.encode ++ [0x47]) = .ok repeatedInfo ∧
      FirstOnWire (repeatedHeader.encode ++ [0x47]) repeatedInfo ∧
      repeatedInfo.alpn? = some [0x68, 0x32] ∧ repeatedInfo.authority? = none ∧
      repeatedInfo.ssl? = some repeatedSsl ∧ repeatedSsl.version? = none ∧
      repeatedSsl.cipher? = some "C1" := by
  have h : read (repeatedHeader.encode ++ [0x47]) = .ok repeatedInfo := by decide +kernel
  exact ⟨h, first_of_read.2 _ _ h, rfl, rfl, rfl, by decide +kernel, by decide +kernel⟩

end ProxyHeader
