import Mathlib.Data.List.Nodup
import ProxyHeader.Proofs.RoundTrip

/-!
# What is found odd

The anomalies of an accepted header are those of its preamble, of its address block and
of its records. The anomalies of records stand in wire order: `Anomaly.InOrder` says
that some anomalies lie in a stretch of the buffer and follow each other in it.

`Extension.findings` says what is odd about an extension from what it shows, its kind
and its payload: a kind that is not known, or those records inside a TLS value that are
neither version nor cipher. The records inside a value are `Extension.subRecords`, split
off by their lengths alone. `Info.anomalies_of_read` says that the anomalies of records
are the findings of the extensions, one after the other, and that what is kept of a TLS
value and what is found odd in it are together all of its records.
-/

namespace ProxyHeader

/-! ## Anomalies in order -/

/-- The offset at which the anomaly stands, if it stands at one. -/
def Anomaly.offset? : Anomaly → Option Nat
  | unknownExtension offset _ | unknownSubtype offset _ => some offset
  | unsupportedTransport .. | unixAddress => none

/-- Both anomalies stand at an offset, the first at a smaller one. -/
def Anomaly.Before (a b : Anomaly) : Prop :=
  ∃ m n, a.offset? = some m ∧ b.offset? = some n ∧ m < n

/-- The anomalies stand from `start` up to `stop` and follow each other. -/
structure Anomaly.InOrder (start stop : Nat) (as : List Anomaly) : Prop where
  within : ∀ a ∈ as, ∃ o, a.offset? = some o ∧ start ≤ o ∧ o < stop
  ordered : as.Pairwise Before

namespace Anomaly.InOrder

theorem nil (start stop : Nat) : InOrder start stop [] where
  within := by simp
  ordered := List.Pairwise.nil

theorem singleton {start stop o : Nat} {a : Anomaly} (ha : a.offset? = some o)
    (h₁ : start ≤ o) (h₂ : o < stop) : InOrder start stop [a] where
  within b hb := by
    rw [List.mem_singleton.mp hb]
    exact ⟨o, ha, h₁, h₂⟩
  ordered := List.pairwise_singleton _ _

theorem mono {start stop start' stop' : Nat} {as : List Anomaly} (h : InOrder start stop as)
    (h₁ : start' ≤ start) (h₂ : stop ≤ stop') : InOrder start' stop' as where
  within a ha := by
    obtain ⟨o, ho, hge, hlt⟩ := h.within a ha
    exact ⟨o, ho, Nat.le_trans h₁ hge, Nat.lt_of_lt_of_le hlt h₂⟩
  ordered := h.ordered

theorem append {start middle stop : Nat} {as bs : List Anomaly} (ha : InOrder start middle as)
    (hb : InOrder middle stop bs) (h₁ : start ≤ middle) (h₂ : middle ≤ stop) :
    InOrder start stop (as ++ bs) where
  within a hmem := by
    rcases List.mem_append.mp hmem with h | h
    · exact (ha.mono (Nat.le_refl _) h₂).within a h
    · exact (hb.mono h₁ (Nat.le_refl _)).within a h
  ordered := by
    refine List.pairwise_append.mpr ⟨ha.ordered, hb.ordered, fun a hmem b hmem' => ?_⟩
    obtain ⟨m, hm, -, hlt⟩ := ha.within a hmem
    obtain ⟨n, hn, hge, -⟩ := hb.within b hmem'
    exact ⟨m, n, hm, hn, Nat.lt_of_lt_of_le hlt hge⟩

end Anomaly.InOrder

/-- The anomalies among the items of a TLS value stand where the items do. -/
theorem inOrder_subAnomaliesAt :
    ∀ (offset : Nat) (items : List Item), Anomaly.InOrder offset
      (offset + (items.flatMap Item.encode).length) (subAnomaliesAt offset items)
  | offset, [] => .nil _ _
  | offset, i :: items => by
    have hpos := i.length_encode_pos
    have hfront : Anomaly.InOrder offset (offset + i.encode.length)
        (i.subAnomaly? offset).toList := by
      unfold Item.subAnomaly?
      split
      · exact .singleton rfl (Nat.le_refl _) (by omega)
      · exact .nil _ _
    rw [subAnomaliesAt_cons, List.flatMap_cons, List.length_append, ← Nat.add_assoc]
    exact hfront.append (inOrder_subAnomaliesAt _ items) (Nat.le_add_right _ _)
      (Nat.le_add_right _ _)

/-- The anomalies in a record stand in it. -/
theorem ExtensionItem.inOrder_anomalies (offset : Nat) (e : ExtensionItem) :
    Anomaly.InOrder offset (offset + e.encode.length) (e.anomalies offset) := by
  have hlt := e.recordHeaderLength_lt
  cases e with
  | tls value h =>
    refine (inOrder_subAnomaliesAt _ value.items).mono (by omega) ?_
    have hlen : (tls value h).encode.length = recordHeaderLength + value.encode.length :=
      (tls value h).length_encode
    rw [hlen, value.length_encode]
    omega
  | other item h =>
    unfold anomalies
    dsimp only
    split
    · exact .singleton rfl (Nat.le_refl _) (by omega)
    · exact .nil _ _

theorem inOrder_anomaliesAt :
    ∀ (offset : Nat) (es : List ExtensionItem), Anomaly.InOrder offset
      (offset + (es.flatMap ExtensionItem.encode).length) (anomaliesAt offset es)
  | offset, [] => .nil _ _
  | offset, e :: es => by
    rw [anomaliesAt_cons, List.flatMap_cons, List.length_append, ← Nat.add_assoc]
    exact (e.inOrder_anomalies offset).append (inOrder_anomaliesAt _ es) (Nat.le_add_right _ _)
      (Nat.le_add_right _ _)

/-! ## Records inside a value -/

/-- The items that some bytes open with. -/
def Item.split (bs : Bytes) : List Item :=
  if h : lengthAt bs 0 ≠ 0 ∧ recordHeaderLength + lengthAt bs 0 ≤ bs.length then
    ⟨byteAt bs 0, bs.extract recordHeaderLength (recordHeaderLength + lengthAt bs 0), by
      rw [← List.length_pos_iff, length_extract h.2]
      omega, by
      rw [length_extract h.2, Nat.add_sub_cancel_left]
      exact (BigEndian.word16 _ _).toNat_lt⟩ ::
    split (bs.drop (recordHeaderLength + lengthAt bs 0))
  else []
termination_by bs.length
decreasing_by
  rw [List.length_drop]
  omega

theorem Item.split_encode_append (i : Item) (rest : Bytes) :
    split (i.encode ++ rest) = i :: split rest := by
  have hpos := List.length_pos_iff.mpr i.payload_ne_nil
  have hlength := i.lengthAt_encode_append rest
  have hpayload : (i.encode ++ rest).drop recordHeaderLength = i.payload ++ rest :=
    drop_payload (p := 0) rfl
  rw [split, dif_pos ⟨by omega, by rw [hlength, List.length_append, i.length_encode]; omega⟩]
  congr 1
  · obtain ⟨code, payload, hne, hlt⟩ := i
    simp only [hlength, mk.injEq]
    exact ⟨rfl, extract_of_drop_eq hpayload⟩
  · rw [hlength, ← i.length_encode, List.drop_left]

theorem Item.split_flatMap_encode : ∀ items : List Item, split (items.flatMap encode) = items
  | [] => by
    rw [split]
    rfl
  | i :: items => by
    rw [List.flatMap_cons, split_encode_append, split_flatMap_encode items]

/-- The records inside a TLS extension, each with the offset that it starts at. -/
def Extension.subRecords (e : Extension) : List (Nat × Item) :=
  located Item.encode (e.offset + recordHeaderLength + SslInfo.headerLength)
    (Item.split (e.payload.drop SslInfo.headerLength))

/-- What is odd about an extension. -/
def Extension.findings (e : Extension) : List Anomaly :=
  match e.kind with
  | .unknown code => [.unknownExtension e.offset code]
  | .ssl => (e.subRecords.filter fun (_, i) =>
      i.code ≠ SubKind.version.code ∧ i.code ≠ SubKind.cipher.code).map fun (o, i) =>
        .unknownSubtype o i.code
  | .alpn | .authority => []

/-! ## The anomalies of a record are its findings -/

theorem SubKind.ofCode?_eq_none_iff {b : UInt8} :
    ofCode? b = none ↔ b ≠ version.code ∧ b ≠ cipher.code := by
  constructor
  · intro h
    constructor
    · rintro rfl
      simp [ofCode?_eq_some_iff.mpr (rfl : version.code = version.code)] at h
    · rintro rfl
      simp [ofCode?_eq_some_iff.mpr (rfl : cipher.code = cipher.code)] at h
  · rintro ⟨hversion, hcipher⟩
    cases hk : ofCode? b with
    | none => rfl
    | some kind =>
      have hcode := ofCode?_eq_some_iff.mp hk
      cases kind with
      | version => exact absurd hcode hversion
      | cipher => exact absurd hcode hcipher

namespace ExtensionItem

theorem subRecords_extension (v : TlsValue) (h : v.encode.length < 65536) (offset : Nat) :
    ((tls v h).extension offset).subRecords =
      located Item.encode (offset + recordHeaderLength + SslInfo.headerLength) v.items := by
  have hdrop : v.encode.drop SslInfo.headerLength = v.items.flatMap Item.encode := rfl
  show located Item.encode _ (Item.split (v.encode.drop SslInfo.headerLength)) = _
  rw [hdrop, Item.split_flatMap_encode]
  rfl

theorem findings_extension (offset : Nat) (e : ExtensionItem) :
    (e.extension offset).findings = e.anomalies offset := by
  cases e with
  | tls v h =>
    show (((tls v h).extension offset).subRecords.filter _).map _ = subAnomaliesAt _ v.items
    rw [subRecords_extension, ← List.filterMap_eq_map, List.filterMap_filter, subAnomaliesAt]
    refine List.filterMap_congr fun x _ => ?_
    obtain ⟨o, i⟩ := x
    simp only [Function.comp, Item.subAnomaly?, Option.isNone_iff_eq_none,
      SubKind.ofCode?_eq_none_iff, decide_eq_true_eq]
  | other item h =>
    have hkind : ((other item h).extension offset).kind = .ofCode item.code := rfl
    rw [Extension.findings, hkind, anomalies]
    cases hk : ExtensionKind.ofCode item.code with
    | alpn => rfl
    | authority => rfl
    | unknown code => rfl
    | ssl => exact absurd (ExtensionKind.ofCode_eq_ssl_iff.mp hk) h

end ExtensionItem

theorem anomaliesAt_eq_flatMap_findings (offset : Nat) (es : List ExtensionItem) :
    anomaliesAt offset es = (extensionsAt offset es).flatMap Extension.findings := by
  rw [anomaliesAt, extensionsAt, List.flatMap_map]
  exact List.flatMap_congr fun x _ => (ExtensionItem.findings_extension x.1 x.2).symm

/-! ## What is kept and what is found -/

/-- The offset and type code of a record that is kept. -/
def SubExtension.entry (sub : SubExtension) : Nat × UInt8 :=
  (sub.offset, sub.kind.code)

/-- The offset and type code of a record that is found odd inside the payload of `e`. -/
def Extension.oddInside? (e : Extension) : Anomaly → Option (Nat × UInt8)
  | .unknownSubtype o code =>
    if e.offset + recordHeaderLength ≤ o ∧ o < e.offset + recordHeaderLength + e.length then
      some (o, code)
    else none
  | _ => none

/-- Entries with growing offsets, put together again from those that satisfy a condition
and those that do not. -/
theorem merge_filter {β : Type} (p : Nat × β → Bool) {l : List (Nat × β)}
    (hl : l.Pairwise fun a b => a.1 < b.1) :
    (l.filter p).merge (l.filter fun x => !p x) (fun a b => decide (a.1 ≤ b.1)) = l := by
  have hle : l.Pairwise fun a b => decide (a.1 ≤ b.1) = true :=
    hl.imp fun h => decide_eq_true (Nat.le_of_lt h)
  have hperm : List.Perm ((l.filter p).merge (l.filter fun x => !p x)
      (fun a b => decide (a.1 ≤ b.1))) l :=
    (List.merge_perm_append _).trans (List.filter_append_perm p l)
  have hnodup : (l.map Prod.fst).Nodup := List.pairwise_map.mpr (hl.imp Nat.ne_of_lt)
  refine List.Perm.eq_of_pairwise ?_ ?_ hle hperm
  · intro a b ha hb hab hba
    refine List.inj_on_of_nodup_map hnodup (hperm.mem_iff.mp ha) hb ?_
    exact Nat.le_antisymm (of_decide_eq_true hab) (of_decide_eq_true hba)
  · refine List.pairwise_merge ?_ ?_ _ _ (hle.filter _) (hle.filter _)
    · intro a b c hab hbc
      exact decide_eq_true (Nat.le_trans (of_decide_eq_true hab) (of_decide_eq_true hbc))
    · intro a b
      simpa using Nat.le_total a.1 b.1

/-- Nothing outside the payload of an extension is found inside it. -/
theorem Anomaly.InOrder.filterMap_oddInside? {start stop : Nat} {as : List Anomaly}
    {e : Extension} (h : InOrder start stop as)
    (hout : stop ≤ e.offset + recordHeaderLength ∨
      e.offset + recordHeaderLength + e.length ≤ start) : as.filterMap e.oddInside? = [] := by
  refine List.filterMap_eq_nil_iff.mpr fun a ha => ?_
  obtain ⟨o, ho, hge, hlt⟩ := h.within a ha
  cases a with
  | unknownSubtype o' code =>
    obtain rfl := Option.some.inj ho
    exact if_neg (by omega)
  | unknownExtension o' code => rfl
  | unsupportedTransport family transport => rfl
  | unixAddress => rfl

theorem anomaliesAt_append (es fs : List ExtensionItem) :
    ∀ offset : Nat, anomaliesAt offset (es ++ fs) = anomaliesAt offset es ++
      anomaliesAt (offset + (es.flatMap ExtensionItem.encode).length) fs := by
  induction es with
  | nil => exact fun _ => rfl
  | cons e es ih =>
    intro offset
    rw [List.cons_append, anomaliesAt_cons, anomaliesAt_cons, ih, List.append_assoc,
      List.flatMap_cons, List.length_append, Nat.add_assoc]

/-- Among all anomalies, those inside the payload of a TLS record are its own. -/
theorem filterMap_oddInside?_anomaliesAt {start o : Nat} {es : List ExtensionItem}
    {v : TlsValue} {h : v.encode.length < 65536}
    (hmem : (o, .tls v h) ∈ located ExtensionItem.encode start es) :
    (anomaliesAt start es).filterMap ((ExtensionItem.tls v h).extension o).oddInside? =
      (v.anomalies (o + recordHeaderLength)).filterMap
        ((ExtensionItem.tls v h).extension o).oddInside? := by
  obtain ⟨pre, post, rfl, rfl⟩ := split_of_mem_located hmem
  -- anomalies of the records before and behind this one lie outside its payload
  have hend := (ExtensionItem.tls v h).length_encode
  rw [anomaliesAt_append, anomaliesAt_cons, List.filterMap_append, List.filterMap_append,
    (inOrder_anomaliesAt start pre).filterMap_oddInside? (Or.inl (Nat.le_add_right _ _)),
    (inOrder_anomaliesAt _ post).filterMap_oddInside? (Or.inr ?_), List.nil_append,
    List.append_nil]
  · rfl
  · rw [hend, ← Nat.add_assoc]
    exact Nat.le_refl _

/-- Which entries of a TLS value are kept. -/
def isKept (entry : Nat × UInt8) : Bool :=
  (SubKind.ofCode? entry.2).isSome

theorem map_entry_subExtensionsAt (offset : Nat) (items : List Item) :
    (subExtensionsAt offset items).map SubExtension.entry =
      ((located Item.encode offset items).map fun (o, i) => (o, i.code)).filter isKept := by
  rw [subExtensionsAt, List.map_filterMap, List.filter_map, ← List.filterMap_eq_map,
    List.filterMap_filter]
  refine List.filterMap_congr fun x _ => ?_
  obtain ⟨o, i⟩ := x
  rcases hk : SubKind.ofCode? i.code with _ | kind
  · simp [isKept, Item.subExtension?, hk]
  · have hcode := SubKind.ofCode?_eq_some_iff.mp hk
    simp [isKept, Item.subExtension?, hk, SubExtension.entry, ← hcode]

theorem filterMap_oddInside?_anomalies (v : TlsValue) (h : v.encode.length < 65536) (o : Nat) :
    (v.anomalies (o + recordHeaderLength)).filterMap
        ((ExtensionItem.tls v h).extension o).oddInside? =
      ((located Item.encode (o + recordHeaderLength + SslInfo.headerLength) v.items).map
        fun (o', i) => (o', i.code)).filter fun entry => !isKept entry := by
  rw [TlsValue.anomalies, subAnomaliesAt, List.filterMap_filterMap, List.filter_map,
    ← List.filterMap_eq_map, List.filterMap_filter]
  refine List.filterMap_congr fun x hx => ?_
  obtain ⟨o', i⟩ := x
  obtain ⟨hge, hle⟩ := bounds_of_mem_located hx
  have hpos := i.length_encode_pos
  have hlength := v.length_encode
  have hodd : ((ExtensionItem.tls v h).extension o).oddInside? (.unknownSubtype o' i.code) =
      some (o', i.code) := by
    refine if_pos ?_
    show o + recordHeaderLength ≤ o' ∧ o' < o + recordHeaderLength + v.encode.length
    omega
  rcases hk : SubKind.ofCode? i.code with _ | kind
  · simp [isKept, Item.subAnomaly?, hk, hodd]
  · simp [isKept, Item.subAnomaly?, hk]

/-- What is kept of a TLS value and what is found odd in it are together all of its
records. -/
theorem merge_entries {start o : Nat} {es : List ExtensionItem} {v : TlsValue}
    {h : v.encode.length < 65536}
    (hmem : (o, .tls v h) ∈ located ExtensionItem.encode start es) :
    ((v.info (o + recordHeaderLength)).subExtensions.map SubExtension.entry).merge
        ((anomaliesAt start es).filterMap ((ExtensionItem.tls v h).extension o).oddInside?)
        (fun a b => decide (a.1 ≤ b.1)) =
      ((ExtensionItem.tls v h).extension o).subRecords.map fun (o', i) => (o', i.code) := by
  rw [TlsValue.info, map_entry_subExtensionsAt, filterMap_oddInside?_anomaliesAt hmem,
    filterMap_oddInside?_anomalies, ExtensionItem.subRecords_extension]
  refine merge_filter isKept ?_
  rw [List.pairwise_map]
  exact Item.prefixCode.pairwise_located _ v.items

/-! ## The anomalies of a header -/

theorem Preamble.toList_warning? {p : Preamble} : p.warning?.toList =
    if p.transport = .datagram then [.unsupportedTransport p.family .datagram] else [] := by
  unfold warning?
  cases ht : p.transport <;> rfl

theorem Addresses.OfFamily.addressAnomalies_eq {f : Family} {a : Addresses}
    (ha : OfFamily f a) :
    Info.addressAnomalies a = if f = .unix then [.unixAddress] else [] := by
  cases ha <;> rfl

/-- The anomalies of an accepted header, in wire order: those of transport and family,
and then the findings of its extensions. Those inside a TLS value and what is kept of it
are together the records that fill the value, one for one. -/
theorem Info.anomalies_of_read {buf : Bytes} {i : Info} (h : read buf = .ok i) :
    ∃ notes : List Anomaly,
      i.anomalies =
        (if i.preamble.transport = .datagram then
          [.unsupportedTransport i.preamble.family .datagram] else []) ++
        (if i.preamble.family = .unix then [.unixAddress] else []) ++ notes ∧
      notes.Pairwise Anomaly.Before ∧
      notes = i.extensions.flatMap Extension.findings ∧
      ∀ e ∈ i.extensions, e.kind = .ssl → ∃ s, e.ssl? = some s ∧
        (e.subRecords.flatMap fun (_, item) => item.encode) =
          e.payload.drop SslInfo.headerLength ∧
        s.subExtensions = e.subRecords.filterMap (fun (o, item) => item.subExtension? o) ∧
        (s.subExtensions.map SubExtension.entry).merge (notes.filterMap e.oddInside?)
          (fun a b => decide (a.1 ≤ b.1)) = e.subRecords.map fun (o, item) => (o, item.code) := by
  obtain ⟨header, t, rfl, hi⟩ := read_eq_ok_iff.mp h
  refine ⟨anomaliesAt header.preamble.extensionsOffset header.records, ?_,
    (inOrder_anomaliesAt _ _).ordered, ?_, ?_⟩
  · rw [hi.anomalies, Preamble.toList_warning?, hi.family.addressAnomalies_eq, hi.preamble]
    rfl
  · rw [anomaliesAt_eq_flatMap_findings, hi.extensions]
  · intro e he hkind
    rw [hi.extensions] at he
    obtain ⟨⟨o, item⟩, hmem, rfl⟩ := List.mem_map.mp he
    cases item with
    | tls v hv =>
      refine ⟨_, rfl, ?_, ?_, merge_entries hmem⟩
      · rw [ExtensionItem.subRecords_extension]
        exact flatMap_located Item.encode _ v.items
      · rw [ExtensionItem.subRecords_extension]
        rfl
    | other item hne =>
      have hcode := congrArg ExtensionKind.code hkind
      exact absurd ((ExtensionKind.code_ofCode item.code).symm.trans hcode) hne

/-- A datagram over UNIX sockets with a record of an unknown kind, and a TLS value with
records of unknown kinds around its version. -/
def oddHeader : Header where
  family := .unix
  transport := .datagram
  block := List.replicate 216 0x2F
  records := [.other ⟨0x04, [0x00], by decide, by decide⟩ (by decide),
    .tls ⟨0x01, 0, [⟨0x22, [0x61], by decide, by decide⟩, ⟨0x21, [0x62], by decide, by decide⟩,
      ⟨0x25, [0x63], by decide, by decide⟩]⟩ (by decide)]
  family_ne_unspec := by decide
  transport_ne_unspec := by decide
  length_block := rfl
  length_le := by decide +kernel

/-- What is read of `oddHeader`. -/
def oddInfo : Info where
  preamble := ⟨.proxy, .unix, .datagram, 216, 24⟩
  addresses := .unix
  extensions := [⟨.unknown 0x04, 232, [0x00], none⟩,
    ⟨.ssl, 236, [0x01, 0, 0, 0, 0, 0x22, 0, 1, 0x61, 0x21, 0, 1, 0x62, 0x25, 0, 1, 0x63],
      some ⟨0x01, 0, [⟨.version, 248, [0x62]⟩]⟩⟩]
  anomalies := [.unsupportedTransport .unix .datagram, .unixAddress, .unknownExtension 232 0x04,
    .unknownSubtype 244 0x22, .unknownSubtype 252 0x25]

theorem Info.anomalies_of_read_oddHeader :
    read (oddHeader.encode ++ [0x47]) = .ok oddInfo ∧
      ∃ notes, oddInfo.anomalies =
          [.unsupportedTransport .unix .datagram] ++ [.unixAddress] ++ notes ∧
        notes.Pairwise Anomaly.Before ∧ notes = oddInfo.extensions.flatMap Extension.findings := by
  have h : read (oddHeader.encode ++ [0x47]) = .ok oddInfo := by decide +kernel
  obtain ⟨notes, hnotes, horder, hfindings, -⟩ := anomalies_of_read h
  exact ⟨h, notes, hnotes, horder, hfindings⟩

end ProxyHeader
