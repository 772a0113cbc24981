import ProxyHeader.Extension.Walk
import ProxyHeader.Proofs.Tiling

/-!
# Records to be written

An `Item` is what a record says apart from where it stands. A `TlsValue` is the value of
a TLS record, with items of its own, and an `ExtensionItem` is a record as it may stand
after the address block: one whose type code is that for TLS has a TLS value.

Each has a written form, and what a reader makes of it at a given offset is said beside
it: the extension, and the anomalies in it. Items and extension items are prefix codes
(`Item.prefixCode`, `ExtensionItem.prefixCode`). Whether an item stands at the front of
some bytes is decided by their first three bytes and their length
(`Item.stuck_iff`).
-/

namespace ProxyHeader

/-! ## Bytes by position -/

/-- The byte at a position. -/
def byteAt (bs : Bytes) (p : Nat) : UInt8 :=
  bs.getD p 0

/-- The length that a record at a position declares. -/
def lengthAt (bs : Bytes) (p : Nat) : Nat :=
  (BigEndian.word16 (byteAt bs (p + 1)) (byteAt bs (p + 2))).toNat

theorem byteAt_drop (bs : Bytes) (p k : Nat) : byteAt (bs.drop p) k = byteAt bs (p + k) := by
  simp [byteAt]

theorem lengthAt_drop (bs : Bytes) (p k : Nat) : lengthAt (bs.drop p) k = lengthAt bs (p + k) := by
  simp only [lengthAt, byteAt_drop, Nat.add_assoc]

theorem byteAt_append {bs : Bytes} {p : Nat} (h : p < bs.length) (cs : Bytes) :
    byteAt (bs ++ cs) p = byteAt bs p := by
  simp [byteAt, List.getElem?_append_left h]

theorem lengthAt_append {bs : Bytes} {p : Nat} (h : p + 2 < bs.length) (cs : Bytes) :
    lengthAt (bs ++ cs) p = lengthAt bs p := by
  rw [lengthAt, lengthAt, byteAt_append (by omega), byteAt_append h]

/-- A byte of what stands at a position. -/
theorem byteAt_of_drop_eq {buf x y : Bytes} {p : Nat} (h : buf.drop p = x ++ y)
    (hx : 0 < x.length) : byteAt x 0 = byteAt buf p := by
  rw [← byteAt_append hx y, ← h, byteAt_drop, Nat.add_zero]

theorem lengthAt_of_drop_eq {buf x y : Bytes} {p : Nat} (h : buf.drop p = x ++ y)
    (hx : 2 < x.length) : lengthAt x 0 = lengthAt buf p := by
  rw [← lengthAt_append hx y, ← h, lengthAt_drop, Nat.add_zero]

/-! ## Items -/

/-- A type code and a value, which is not empty and whose length fits two bytes. -/
structure Item where
  code : UInt8
  payload : Bytes
  payload_ne_nil : payload ≠ []
  length_payload_lt : payload.length < 65536

namespace Item

/-- The written form: type code, length, value. -/
def encode (i : Item) : Bytes :=
  Record.encode i.code i.payload

/-- The item as it is read at an offset. -/
def record (offset : Nat) (i : Item) : Record :=
  ⟨i.code, offset, i.payload⟩

theorem length_encode (i : Item) : i.encode.length = recordHeaderLength + i.payload.length :=
  Record.length_encode _ _

theorem toNat_length (i : Item) : (UInt16.ofNat i.payload.length).toNat = i.payload.length := by
  have := i.length_payload_lt
  rw [UInt16.toNat_ofNat']
  omega

theorem encode_append_inj {i j : Item} {x y : Bytes} (h : i.encode ++ x = j.encode ++ y) :
    i = j ∧ x = y := by
  obtain ⟨code, payload, hne, hlt⟩ := i
  obtain ⟨code', payload', hne', hlt'⟩ := j
  simp only [encode, Record.encode, BigEndian.bytes16, List.cons_append, List.nil_append,
    List.cons.injEq] at h
  obtain ⟨rfl, hhi, hlo, hrest⟩ := h
  have hw : UInt16.ofNat payload.length = UInt16.ofNat payload'.length := by
    rw [← BigEndian.word16_bytes16 (UInt16.ofNat payload.length), hhi, hlo,
      BigEndian.word16_bytes16]
  have hlen : payload.length = payload'.length := by
    have := congrArg UInt16.toNat hw
    simp only [UInt16.toNat_ofNat'] at this
    omega
  obtain ⟨rfl, rfl⟩ := List.append_inj hrest hlen
  exact ⟨rfl, rfl⟩

theorem prefixCode : PrefixCode Item.encode where
  ne_nil _ := List.cons_ne_nil _ _
  eq_of_append_eq h := by rw [(encode_append_inj h).1]

theorem length_encode_pos (i : Item) : 0 < i.encode.length :=
  List.length_pos_iff.mpr (prefixCode.ne_nil i)

/-- Bytes that hold as many as their third and second byte say after these, at least
one, open with an item. -/
theorem exists_eq_encode_append {bs : Bytes} (h₃ : recordHeaderLength ≤ bs.length)
    (hpos : lengthAt bs 0 ≠ 0) (hle : recordHeaderLength + lengthAt bs 0 ≤ bs.length) :
    ∃ (i : Item) (rest : Bytes), bs = i.encode ++ rest ∧ i.code = byteAt bs 0 ∧
      i.payload.length = lengthAt bs 0 := by
  rcases bs with _ | ⟨code, _ | ⟨hi, _ | ⟨lo, bs⟩⟩⟩
  · simp [recordHeaderLength] at h₃
  · simp [recordHeaderLength] at h₃
  · simp [recordHeaderLength] at h₃
  · have hlen : lengthAt (code :: hi :: lo :: bs) 0 = (BigEndian.word16 hi lo).toNat := rfl
    have hlt := (BigEndian.word16 hi lo).toNat_lt
    rw [hlen] at hpos hle ⊢
    simp only [List.length_cons, recordHeaderLength] at hle
    have htake : (bs.take (BigEndian.word16 hi lo).toNat).length =
        (BigEndian.word16 hi lo).toNat := by
      rw [List.length_take]
      omega
    refine ⟨⟨code, bs.take (BigEndian.word16 hi lo).toNat, ?_, by omega⟩,
      bs.drop (BigEndian.word16 hi lo).toNat, ?_, rfl, htake⟩
    · intro hnil
      rw [hnil] at htake
      exact hpos htake.symm
    · simp only [encode, Record.encode, htake, UInt16.ofNat_toNat, BigEndian.bytes16_word16,
        List.cons_append, List.nil_append, List.take_append_drop]

theorem lengthAt_encode_append (i : Item) (rest : Bytes) :
    lengthAt (i.encode ++ rest) 0 = i.payload.length := by
  rw [← i.toNat_length, ← BigEndian.word16_bytes16 (UInt16.ofNat i.payload.length)]
  rfl

/-- The value of an item stands behind its type code and length. -/
theorem drop_payload {buf rest : Bytes} {p : Nat} {i : Item}
    (h : buf.drop p = i.encode ++ rest) :
    buf.drop (p + recordHeaderLength) = i.payload ++ rest := by
  refine drop_add_of_drop_eq (x := i.code ::
    BigEndian.bytes16 (UInt16.ofNat i.payload.length)) ?_
  rw [h, encode, Record.encode, List.append_assoc]

/-- Where no item stands, the bytes end too soon for one or declare it to be empty. -/
theorem stuck_iff {bs : Bytes} : Stuck Item.encode bs ↔
    bs.length < recordHeaderLength ∨ lengthAt bs 0 = 0 ∨
      bs.length < recordHeaderLength + lengthAt bs 0 := by
  constructor
  · intro hs
    by_contra h
    simp only [not_or, Nat.not_lt] at h
    obtain ⟨i, rest, rfl, -, -⟩ := exists_eq_encode_append h.1 h.2.1 h.2.2
    exact PrefixCode.not_stuck_append i rest hs
  · rintro h i ⟨rest, rfl⟩
    have hpos := List.length_pos_iff.mpr i.payload_ne_nil
    rw [lengthAt_encode_append, List.length_append, length_encode] at h
    omega

end Item

/-! ## TLS values -/

/-- What the value of a TLS record says. -/
structure TlsValue where
  client : UInt8
  verify : UInt32
  items : List Item

/-- What is kept of an item inside a TLS value. -/
def Item.subExtension? (offset : Nat) (i : Item) : Option SubExtension :=
  (SubKind.ofCode? i.code).map fun kind => ⟨kind, offset, i.payload⟩

/-- The anomaly that an item inside a TLS value is. -/
def Item.subAnomaly? (offset : Nat) (i : Item) : Option Anomaly :=
  if (SubKind.ofCode? i.code).isNone then some (.unknownSubtype offset i.code) else none

/-- What is kept of items inside a TLS value, the first of which stands at `offset`. -/
def subExtensionsAt (offset : Nat) (items : List Item) : List SubExtension :=
  (located Item.encode offset items).filterMap fun (o, i) => i.subExtension? o

/-- The anomalies among items inside a TLS value, the first of which stands at `offset`. -/
def subAnomaliesAt (offset : Nat) (items : List Item) : List Anomaly :=
  (located Item.encode offset items).filterMap fun (o, i) => i.subAnomaly? o

theorem subExtensionsAt_cons (offset : Nat) (i : Item) (items : List Item) :
    subExtensionsAt offset (i :: items) =
      (i.subExtension? offset).toList ++ subExtensionsAt (offset + i.encode.length) items := by
  cases h : i.subExtension? offset <;> simp [subExtensionsAt, located, h]

theorem subAnomaliesAt_cons (offset : Nat) (i : Item) (items : List Item) :
    subAnomaliesAt offset (i :: items) =
      (i.subAnomaly? offset).toList ++ subAnomaliesAt (offset + i.encode.length) items := by
  cases h : i.subAnomaly? offset <;> simp [subAnomaliesAt, located, h]

namespace TlsValue

/-- The written form: flags, verification result, items. -/
def encode (v : TlsValue) : Bytes :=
  v.client :: (BigEndian.bytes32 v.verify ++ v.items.flatMap Item.encode)

/-- What is read of a value whose first byte has offset `base`. -/
def info (base : Nat) (v : TlsValue) : SslInfo :=
  ⟨v.client, v.verify, subExtensionsAt (base + SslInfo.headerLength) v.items⟩

/-- The anomalies in a value whose first byte has offset `base`. -/
def anomalies (base : Nat) (v : TlsValue) : List Anomaly :=
  subAnomaliesAt (base + SslInfo.headerLength) v.items

theorem length_encode (v : TlsValue) :
    v.encode.length = SslInfo.headerLength + (v.items.flatMap Item.encode).length := by
  simp only [encode, List.length_cons, List.length_append, BigEndian.length_bytes32,
    SslInfo.headerLength]
  omega

/-- The items of a TLS value stand behind flags and verification result. -/
theorem drop_items {buf rest : Bytes} {p : Nat} {v : TlsValue}
    (h : buf.drop p = v.encode ++ rest) :
    buf.drop (p + SslInfo.headerLength) = v.items.flatMap Item.encode ++ rest := by
  refine drop_add_of_drop_eq (x := v.client :: BigEndian.bytes32 v.verify) ?_
  rw [h, encode, List.cons_append, List.cons_append, List.append_assoc]

end TlsValue

/-! ## Extension items -/

/-- A record after the address block. One with the type code for TLS has a TLS value. -/
inductive ExtensionItem where
  | tls (value : TlsValue) (h : value.encode.length < 65536)
  | other (item : Item) (h : item.code ≠ ExtensionKind.ssl.code)

namespace ExtensionItem

/-- The type code and value of a record. -/
def item : ExtensionItem → Item
  | tls value h => ⟨ExtensionKind.ssl.code, value.encode, List.cons_ne_nil _ _, h⟩
  | other item _ => item

/-- The written form. -/
def encode (e : ExtensionItem) : Bytes :=
  e.item.encode

/-- What is read of a record at an offset. -/
def extension (offset : Nat) (e : ExtensionItem) : Extension :=
  ⟨.ofCode e.item.code, offset, e.item.payload,
    match e with
    | tls value _ => some (value.info (offset + recordHeaderLength))
    | other _ _ => none⟩

/-- The anomalies in a record at an offset. -/
def anomalies (offset : Nat) : ExtensionItem → List Anomaly
  | tls value _ => value.anomalies (offset + recordHeaderLength)
  | other item _ =>
    match ExtensionKind.ofCode item.code with
    | .unknown code => [.unknownExtension offset code]
    | _ => []

theorem length_encode (e : ExtensionItem) :
    e.encode.length = recordHeaderLength + e.item.payload.length :=
  e.item.length_encode

theorem recordHeaderLength_lt (e : ExtensionItem) : recordHeaderLength < e.encode.length := by
  have := List.length_pos_iff.mpr e.item.payload_ne_nil
  rw [length_encode]
  omega

theorem prefixCode : PrefixCode ExtensionItem.encode where
  ne_nil e := Item.prefixCode.ne_nil e.item
  eq_of_append_eq h := Item.prefixCode.eq_of_append_eq h

/-- An item is an extension item unless its code is that for TLS and its value is no TLS
value. -/
theorem exists_item_eq {i : Item}
    (h : i.code ≠ ExtensionKind.ssl.code ∨ ∃ v : TlsValue, v.encode = i.payload) :
    ∃ e : ExtensionItem, e.item = i := by
  by_cases hc : i.code = ExtensionKind.ssl.code
  · obtain ⟨v, hv⟩ := h.resolve_left (not_not_intro hc)
    obtain ⟨code, payload, hne, hlt⟩ := i
    simp only at hc hv
    subst hc hv
    exact ⟨.tls v hlt, rfl⟩
  · exact ⟨.other i hc, rfl⟩

end ExtensionItem

/-- What is read of records, the first of which stands at `offset`. -/
def extensionsAt (offset : Nat) (es : List ExtensionItem) : List Extension :=
  (located ExtensionItem.encode offset es).map fun (o, e) => e.extension o

/-- The anomalies in records, the first of which stands at `offset`. -/
def anomaliesAt (offset : Nat) (es : List ExtensionItem) : List Anomaly :=
  (located ExtensionItem.encode offset es).flatMap fun (o, e) => e.anomalies o

theorem extensionsAt_cons (offset : Nat) (e : ExtensionItem) (es : List ExtensionItem) :
    extensionsAt offset (e :: es) =
      e.extension offset :: extensionsAt (offset + e.encode.length) es :=
  rfl

theorem anomaliesAt_cons (offset : Nat) (e : ExtensionItem) (es : List ExtensionItem) :
    anomaliesAt offset (e :: es) =
      e.anomalies offset ++ anomaliesAt (offset + e.encode.length) es := by
  simp [anomaliesAt, located]

end ProxyHeader
