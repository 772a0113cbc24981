import ProxyHeader.Proofs.Item

/-!
# Walks over written records

What the two walks, over the records of a header and over those inside a TLS value, do
on bytes that open with the written form of some records. Such records are read one by
one and the walk goes on behind them (`SslInfo.readSubExtensions_append`,
`Extension.readAll_append`). Where no record stands the walk fails, and
`recordError` says how.

A TLS value is read back as what it says (`SslInfo.read_encode`); other bytes are
refused (`SslInfo.read_of_not_encode`).
-/

namespace ProxyHeader

/-! ## One record -/

namespace Reader

theorem record_append (i : Item) (base consumed : Nat) (rest : Bytes) :
    record ⟨base, consumed, i.encode ++ rest⟩ =
      .ok (i.record (base + consumed), ⟨base, consumed + i.encode.length, rest⟩) :=
  record_eq_ok_iff.mpr ⟨rfl, i.payload_ne_nil, i.length_payload_lt, rfl, rfl, by
    rw [i.length_encode]
    rfl⟩

/-- What is wrong at an offset with bytes at whose front no record stands. -/
def recordError (offset : Nat) (bs : Bytes) : HeaderError :=
  if bs.length < recordHeaderLength then .truncated offset bs.length
  else .overrun offset (byteAt bs 0) (lengthAt bs 0)

theorem record_of_stuck {base consumed : Nat} {bs : Bytes} (hs : Stuck Item.encode bs) :
    record ⟨base, consumed, bs⟩ = .error (recordError (base + consumed) bs) := by
  rcases bs with _ | ⟨code, _ | ⟨hi, _ | ⟨lo, bs⟩⟩⟩
  · rfl
  · rfl
  · rfl
  · have hlen : lengthAt (code :: hi :: lo :: bs) 0 = (BigEndian.word16 hi lo).toNat := rfl
    have hs' := Item.stuck_iff.mp hs
    rw [hlen] at hs'
    simp only [List.length_cons, recordHeaderLength] at hs'
    rw [recordError, if_neg (by simp [recordHeaderLength])]
    simp only [record, u8, u16]
    by_cases h0 : BigEndian.word16 hi lo = 0
    · rw [if_pos h0, hlen, h0]
      rfl
    · have hne : (BigEndian.word16 hi lo).toNat ≠ 0 := fun hz => h0 (UInt16.toNat_inj.mp hz)
      have htake : take (BigEndian.word16 hi lo).toNat ⟨base, consumed + 1 + 2, bs⟩ = none := by
        rw [take_eq_none_iff]
        show bs.length < _
        omega
      rw [if_neg h0, htake]
      rfl

end Reader

/-! ## Walks with a run of records before them -/

namespace Walk

variable {α : Type}

/-- The walk `w` with `as` read and `notes` met before it. -/
def after (as : List α) (notes : List Anomaly) (w : Walk (List α)) : Walk (List α) :=
  ⟨w.result.map (as ++ ·), notes ++ w.anomalies⟩

theorem after_nil (w : Walk (List α)) : w.after [] [] = w := by
  obtain ⟨_ | _, _⟩ := w <;> rfl

theorem after_after (as bs : List α) (ms ns : List Anomaly) (w : Walk (List α)) :
    (w.after bs ns).after as ms = w.after (as ++ bs) (ms ++ ns) := by
  obtain ⟨_ | _, _⟩ := w <;> simp [after, Except.map]

theorem result_after_eq_ok_iff {as es : List α} {notes : List Anomaly} {w : Walk (List α)} :
    (w.after as notes).result = .ok es ↔ ∃ bs, w.result = .ok bs ∧ as ++ bs = es := by
  obtain ⟨_ | bs, _⟩ := w <;> simp [after, Except.map]

theorem result_after_eq_error_iff {as : List α} {notes : List Anomaly} {w : Walk (List α)}
    {e : HeaderError} : (w.after as notes).result = .error e ↔ w.result = .error e := by
  obtain ⟨_ | bs, _⟩ := w <;> simp [after, Except.map]

theorem map_cons_eq_after (a : α) (w : Walk (List α)) : w.map (a :: ·) = w.after [a] [] :=
  rfl

theorem noting_eq_after (n : Anomaly) (w : Walk (List α)) : w.noting n = w.after [] [n] := by
  obtain ⟨_ | _, _⟩ := w <;> rfl

end Walk

/-! ## Inside a TLS value -/

namespace SslInfo

theorem readSubExtensions_nil (base consumed : Nat) :
    readSubExtensions ⟨base, consumed, []⟩ = .done [] := by
  rw [readSubExtensions]
  rfl

/-- One step of the walk: an item is kept or noted. -/
theorem readSubExtensions_encode_append (i : Item) (base consumed : Nat) (rest : Bytes) :
    readSubExtensions ⟨base, consumed, i.encode ++ rest⟩ =
      (readSubExtensions ⟨base, consumed + i.encode.length, rest⟩).after
        (i.subExtension? (base + consumed)).toList (i.subAnomaly? (base + consumed)).toList := by
  conv_lhs => rw [readSubExtensions]
  rw [if_neg (by simp [Item.encode, Record.encode])]
  split
  next e he => simp [Reader.record_append] at he
  next record r' hr =>
    obtain ⟨rfl, rfl⟩ := Prod.mk.inj (Except.ok.inj ((Reader.record_append ..).symm.trans hr))
    unfold Item.subExtension? Item.subAnomaly? Item.record
    dsimp only
    cases SubKind.ofCode? i.code with
    | some kind => exact Walk.map_cons_eq_after _ _
    | none => exact Walk.noting_eq_after _ _

theorem readSubExtensions_append (base : Nat) (tail : Bytes) :
    ∀ (items : List Item) (consumed : Nat),
      readSubExtensions ⟨base, consumed, items.flatMap Item.encode ++ tail⟩ =
        (readSubExtensions ⟨base, consumed + (items.flatMap Item.encode).length, tail⟩).after
          (subExtensionsAt (base + consumed) items) (subAnomaliesAt (base + consumed) items)
  | [], consumed => (Walk.after_nil _).symm
  | i :: items, consumed => by
    rw [List.flatMap_cons, List.append_assoc, readSubExtensions_encode_append,
      readSubExtensions_append base tail items, Walk.after_after, List.length_append,
      subExtensionsAt_cons, subAnomaliesAt_cons, Nat.add_assoc, Nat.add_assoc]

theorem readSubExtensions_of_stuck {base consumed : Nat} {tail : Bytes} (hne : tail ≠ [])
    (hs : Stuck Item.encode tail) : readSubExtensions ⟨base, consumed, tail⟩ =
      .fail (Reader.recordError (base + consumed) tail) := by
  rw [readSubExtensions, if_neg (by simpa using hne)]
  split
  next e he =>
    rw [Except.error.inj ((Reader.record_of_stuck hs).symm.trans he)]
  next record r' hr => simp [Reader.record_of_stuck hs] at hr

/-- Flags and verification result stand in front of the records. -/
theorem read_cons_append (client : UInt8) (verify : UInt32) (rest : Bytes) (base : Nat) :
    read (client :: (BigEndian.bytes32 verify ++ rest)) base =
      (readSubExtensions ⟨base, headerLength, rest⟩).map fun subs => ⟨client, verify, subs⟩ := by
  have hword := BigEndian.word32_bytes32 verify
  simp only [read, Reader.ofBytes, Reader.u8, Reader.u32, BigEndian.bytes32, List.cons_append,
    List.nil_append, hword]
  rfl

/-- Where no item follows the items, the walk is over, or ends in the error of what
follows. -/
theorem readSubExtensions_append_of_stuck {tail : Bytes} (hs : Stuck Item.encode tail)
    (base consumed : Nat) (items : List Item) :
    readSubExtensions ⟨base, consumed, items.flatMap Item.encode ++ tail⟩ =
      ⟨if tail = [] then .ok (subExtensionsAt (base + consumed) items)
        else .error (Reader.recordError
          (base + consumed + (items.flatMap Item.encode).length) tail),
        subAnomaliesAt (base + consumed) items⟩ := by
  rw [readSubExtensions_append]
  by_cases hnil : tail = []
  · rw [hnil, readSubExtensions_nil, if_pos rfl]
    simp [Walk.after, Walk.done, Except.map]
  · rw [readSubExtensions_of_stuck hnil hs, if_neg hnil, Nat.add_assoc]
    simp [Walk.after, Walk.fail, Except.map]

/-- All that is read of a value that is long enough for flags and verification result. -/
theorem read_append_of_stuck {tail : Bytes} (hs : Stuck Item.encode tail) (client : UInt8)
    (verify : UInt32) (items : List Item) (base : Nat) :
    read (client :: (BigEndian.bytes32 verify ++ (items.flatMap Item.encode ++ tail))) base =
      ⟨if tail = [] then .ok ⟨client, verify, subExtensionsAt (base + headerLength) items⟩
        else .error (Reader.recordError
          (base + headerLength + (items.flatMap Item.encode).length) tail),
        subAnomaliesAt (base + headerLength) items⟩ := by
  rw [read_cons_append, readSubExtensions_append_of_stuck hs, Walk.map]
  by_cases hnil : tail = []
  · simp only [if_pos hnil, Except.map]
  · simp only [if_neg hnil, Except.map]

theorem read_encode (v : TlsValue) (base : Nat) :
    read v.encode base = ⟨.ok (v.info base), v.anomalies base⟩ := by
  have h := read_append_of_stuck Item.prefixCode.stuck_nil v.client v.verify v.items base
  rw [List.append_nil, if_pos rfl] at h
  exact h

theorem read_of_short {value : Bytes} (h : value.length < headerLength) (base : Nat) :
    read value base = .fail (.truncated base value.length) := by
  rcases value with _ | ⟨a, _ | ⟨b, _ | ⟨c, _ | ⟨d, _ | ⟨e, value⟩⟩⟩⟩⟩
  · rfl
  · rfl
  · rfl
  · rfl
  · rfl
  · simp only [List.length_cons, headerLength] at h
    omega

theorem exists_eq_cons_append {value : Bytes} (h : headerLength ≤ value.length) :
    ∃ (client : UInt8) (verify : UInt32) (rest : Bytes),
      value = client :: (BigEndian.bytes32 verify ++ rest) := by
  rcases value with _ | ⟨a, _ | ⟨b, _ | ⟨c, _ | ⟨d, _ | ⟨e, value⟩⟩⟩⟩⟩
  · simp [headerLength] at h
  · simp [headerLength] at h
  · simp [headerLength] at h
  · simp [headerLength] at h
  · simp [headerLength] at h
  · exact ⟨a, BigEndian.word32 b c d e, value, by rw [BigEndian.bytes32_word32]; rfl⟩

/-- Bytes that are no TLS value are too short for one, or hold more after the items
that they open with. -/
theorem read_of_not_encode {value : Bytes} (h : ∀ v : TlsValue, v.encode ≠ value) (base : Nat) :
    (value.length < headerLength ∧
        (read value base).result = .error (.truncated base value.length)) ∨
      ∃ (v : TlsValue) (tail : Bytes), value = v.encode ++ tail ∧ tail ≠ [] ∧
        Stuck Item.encode tail ∧ (read value base).result =
          .error (Reader.recordError (base + v.encode.length) tail) := by
  rcases Nat.lt_or_ge value.length headerLength with hlt | hge
  · exact Or.inl ⟨hlt, by rw [read_of_short hlt]; rfl⟩
  · obtain ⟨client, verify, rest, rfl⟩ := exists_eq_cons_append hge
    obtain ⟨items, tail, rfl, hs⟩ := Item.prefixCode.exists_tiling rest
    have hne : tail ≠ [] := by
      rintro rfl
      exact h ⟨client, verify, items⟩ (by simp [TlsValue.encode])
    refine Or.inr ⟨⟨client, verify, items⟩, tail, by simp [TlsValue.encode], hne, hs, ?_⟩
    rw [read_append_of_stuck hs, if_neg hne, TlsValue.length_encode, ← Nat.add_assoc]

end SslInfo

/-! ## After the address block -/

namespace Extension

theorem ofRecord_of_ssl {i : Item} (h : i.code = ExtensionKind.ssl.code) (offset : Nat) :
    ofRecord (i.record offset) =
      (SslInfo.read i.payload (offset + recordHeaderLength)).map fun ssl =>
        ⟨.ssl, offset, i.payload, some ssl⟩ := by
  rw [ofRecord, Item.record]
  simp only [ExtensionKind.ofCode_eq_ssl_iff.mpr h]

theorem ofRecord_item (e : ExtensionItem) (offset : Nat) :
    ofRecord (e.item.record offset) = ⟨.ok (e.extension offset), e.anomalies offset⟩ := by
  cases e with
  | tls value h =>
    have hpayload : (ExtensionItem.tls value h).item.payload = value.encode := rfl
    rw [ofRecord_of_ssl rfl, hpayload, SslInfo.read_encode]
    rfl
  | other item h =>
    simp only [ofRecord, Item.record, ExtensionItem.item, ExtensionItem.extension,
      ExtensionItem.anomalies]
    cases hk : ExtensionKind.ofCode item.code with
    | alpn => rfl
    | authority => rfl
    | unknown code => rfl
    | ssl => exact absurd (ExtensionKind.ofCode_eq_ssl_iff.mp hk) h

/-- The walk is over when as many bytes are consumed as are expected. -/
theorem readAll_of_le {expected : Nat} {r : Reader} (h : expected ≤ r.consumed) :
    readAll expected r = .done [] := by
  rw [readAll, if_pos h]

theorem readAll_of_short {expected : Nat} {r : Reader} (hlt : r.consumed < expected)
    (h : expected - r.consumed < recordHeaderLength) :
    readAll expected r = .fail (.truncated r.offset (expected - r.consumed)) := by
  rw [readAll, if_neg (Nat.not_le.mpr hlt), if_pos h]

theorem readAll_of_stuck {expected base consumed : Nat} {bs : Bytes}
    (h : consumed + recordHeaderLength ≤ expected) (hs : Stuck Item.encode bs) :
    readAll expected ⟨base, consumed, bs⟩ =
      .fail (Reader.recordError (base + consumed) bs) := by
  rw [readAll, if_neg (by simp only [recordHeaderLength] at h ⊢; omega),
    if_neg (by simp only; omega)]
  split
  next e he => rw [Except.error.inj ((Reader.record_of_stuck hs).symm.trans he)]
  next record r' hr => simp [Reader.record_of_stuck hs] at hr

/-- One step of the walk: an item that ends in time is decoded. -/
theorem readAll_encode_append {expected consumed : Nat} (base : Nat) (i : Item) (rest : Bytes)
    (h : consumed + recordHeaderLength ≤ expected) :
    readAll expected ⟨base, consumed, i.encode ++ rest⟩ =
      if expected < consumed + i.encode.length then
        .fail (.bufferOverrun (consumed + i.encode.length) expected)
      else
        (ofRecord (i.record (base + consumed))).andThen fun e =>
          (readAll expected ⟨base, consumed + i.encode.length, rest⟩).map (e :: ·) := by
  conv_lhs => rw [readAll]
  rw [if_neg (by simp only [recordHeaderLength] at h ⊢; omega), if_neg (by simp only; omega)]
  split
  next e he => simp [Reader.record_append] at he
  next record r' hr =>
    obtain ⟨rfl, rfl⟩ := Prod.mk.inj (Except.ok.inj ((Reader.record_append ..).symm.trans hr))
    rfl

/-- One step of the walk on a record that may stand after the address block. -/
theorem readAll_extensionItem_append {expected consumed : Nat} (base : Nat) (e : ExtensionItem)
    (rest : Bytes) (h : consumed + e.encode.length ≤ expected) :
    readAll expected ⟨base, consumed, e.encode ++ rest⟩ =
      (readAll expected ⟨base, consumed + e.encode.length, rest⟩).after
        [e.extension (base + consumed)] (e.anomalies (base + consumed)) := by
  have hlt := e.recordHeaderLength_lt
  unfold ExtensionItem.encode at h hlt ⊢
  rw [readAll_encode_append _ _ _ (by omega), if_neg (by omega), ofRecord_item]
  rfl

theorem readAll_append {expected : Nat} (base : Nat) (tail : Bytes) :
    ∀ (es : List ExtensionItem) (consumed : Nat),
      consumed + (es.flatMap ExtensionItem.encode).length ≤ expected →
      readAll expected ⟨base, consumed, es.flatMap ExtensionItem.encode ++ tail⟩ =
        (readAll expected
          ⟨base, consumed + (es.flatMap ExtensionItem.encode).length, tail⟩).after
          (extensionsAt (base + consumed) es) (anomaliesAt (base + consumed) es)
  | [], consumed, _ => (Walk.after_nil _).symm
  | e :: es, consumed, h => by
    rw [List.flatMap_cons, List.length_append] at h ⊢
    rw [List.append_assoc, readAll_extensionItem_append base e _ (by omega),
      readAll_append base tail es _ (by omega), Walk.after_after, extensionsAt_cons,
      anomaliesAt_cons, Nat.add_assoc, Nat.add_assoc]
    rfl

end Extension

end ProxyHeader
