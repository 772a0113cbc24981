import ProxyHeader.Proofs.Walk

/-!
# The first defect

A region of a buffer is `Tiled` if well-formed records fill it. If it is not, there is
one position up to which it is tiled and where no well-formed record that ends in the
region stands: the `FirstDefect` (`FirstDefect.unique`, `tiled_or_firstDefect`).

`ErrorAt` says in terms of positions which error the record there gives rise to, and
`TlsErrorAt` does so for what stands inside a TLS value. A walk over a tiled region reads
its records (`Extension.walk_of_tiling`); over any other it ends in the error of the
first defect (`Extension.walk_of_firstDefect`).
-/

namespace ProxyHeader

/-! ## Regions -/

/-- Well-formed records fill the bytes from `start` up to `stop`. -/
def Tiled (buf : Bytes) (start stop : Nat) : Prop :=
  ∃ es : List ExtensionItem, buf.extract start stop = es.flatMap ExtensionItem.encode

/-- The records from `start` up to `p` are well formed, and none that is stands at `p`
and ends by `stop`. -/
structure FirstDefect (buf : Bytes) (start stop p : Nat) : Prop where
  start_le : start ≤ p
  lt_stop : p < stop
  tiled : Tiled buf start p
  stuck : Stuck ExtensionItem.encode (buf.extract p stop)

/-- No run of well-formed records reaches past a position where none stands. -/
theorem FirstDefect.le_of_tiled {buf : Bytes} {start stop p q : Nat} (hlen : stop ≤ buf.length)
    (hp : FirstDefect buf start stop p) (hq : Tiled buf start q) (hqs : q ≤ stop) : q ≤ p := by
  obtain ⟨es, hes⟩ := hp.tiled
  obtain ⟨fs, hfs⟩ := hq
  exact ExtensionItem.prefixCode.le_of_stuck hlen hp.start_le hqs hes hp.stuck hfs

theorem FirstDefect.unique {buf : Bytes} {start stop p q : Nat} (hlen : stop ≤ buf.length)
    (hp : FirstDefect buf start stop p) (hq : FirstDefect buf start stop q) : p = q :=
  Nat.le_antisymm (hq.le_of_tiled hlen hp.tiled (Nat.le_of_lt hp.lt_stop))
    (hp.le_of_tiled hlen hq.tiled (Nat.le_of_lt hq.lt_stop))

theorem tiled_or_firstDefect {buf : Bytes} {start stop : Nat} (hle : start ≤ stop)
    (hlen : stop ≤ buf.length) : Tiled buf start stop ∨ ∃ p, FirstDefect buf start stop p := by
  obtain ⟨es, tail, htile, hstuck⟩ :=
    ExtensionItem.prefixCode.exists_tiling (buf.extract start stop)
  rcases List.eq_nil_or_concat tail with rfl | ⟨_, _, hne⟩
  · exact Or.inl ⟨es, by rw [htile, List.append_nil]⟩
  · have hsum := congrArg List.length htile
    have hpos : 0 < tail.length := by simp [hne]
    rw [length_extract hlen, List.length_append] at hsum
    have hsplit := extract_append_extract buf
      (Nat.le_add_right start (es.flatMap ExtensionItem.encode).length)
      (show start + (es.flatMap ExtensionItem.encode).length ≤ stop by omega)
    rw [htile] at hsplit
    obtain ⟨hes, htail⟩ := List.append_inj hsplit (by
      rw [length_extract (by omega)]
      omega)
    exact Or.inr ⟨start + (es.flatMap ExtensionItem.encode).length, by omega, by omega,
      ⟨es, hes⟩, htail ▸ hstuck⟩

/-- An item that stands at a first defect and ends in the region has the type code for TLS
and no TLS value. -/
theorem FirstDefect.not_tlsValue_of_item {buf rest : Bytes} {start stop p : Nat} {i : Item}
    (hp : FirstDefect buf start stop p) (hdrop : buf.drop p = i.encode ++ rest)
    (hend : p + i.encode.length ≤ stop) :
    i.code = ExtensionKind.ssl.code ∧ ∀ v : TlsValue, v.encode ≠ i.payload := by
  have hfront : i.encode <+: buf.extract p stop := by
    rw [List.extract_eq_take_drop, hdrop, List.prefix_take_iff]
    exact ⟨List.prefix_append _ _, by omega⟩
  have hnot : ∀ e : ExtensionItem, e.item ≠ i := fun e he =>
    hp.stuck e (by rw [ExtensionItem.encode, he]; exact hfront)
  constructor
  · by_contra hc
    obtain ⟨e, he⟩ := ExtensionItem.exists_item_eq (Or.inl hc)
    exact hnot e he
  · intro v hv
    obtain ⟨e, he⟩ := ExtensionItem.exists_item_eq (Or.inr ⟨v, hv⟩)
    exact hnot e he

/-! ## Which error a defect gives rise to -/

/-- `e` says what is wrong with the record at `q` of a TLS value that ends at `stop`. -/
def SubErrorAt (buf : Bytes) (stop q : Nat) (e : HeaderError) : Prop :=
  if stop - q < recordHeaderLength then e = .truncated q (stop - q)
  else
    (lengthAt buf q = 0 ∨ stop < q + recordHeaderLength + lengthAt buf q) ∧
      e = .overrun q (byteAt buf q) (lengthAt buf q)

/-- `e` says what is wrong inside the TLS value that stands from `start` up to `stop`:
it is too short, or the records inside it are well formed up to a position `q` where one
is not. -/
def TlsErrorAt (buf : Bytes) (start stop : Nat) (e : HeaderError) : Prop :=
  if stop - start < SslInfo.headerLength then e = .truncated start (stop - start)
  else
    ∃ q, start + SslInfo.headerLength ≤ q ∧ q < stop ∧
      (∃ items : List Item,
        buf.extract (start + SslInfo.headerLength) q = items.flatMap Item.encode) ∧
      SubErrorAt buf stop q e

/-- `e` says what is wrong with the record at `p` of a region that stands from `start` up
to `stop`. -/
def ErrorAt (buf : Bytes) (start stop p : Nat) (e : HeaderError) : Prop :=
  if stop - p < recordHeaderLength then e = .truncated p (stop - p)
  else if lengthAt buf p = 0 ∨ buf.length < p + recordHeaderLength + lengthAt buf p then
    e = .overrun p (byteAt buf p) (lengthAt buf p)
  else if stop < p + recordHeaderLength + lengthAt buf p then
    e = .bufferOverrun (p + recordHeaderLength + lengthAt buf p - start) (stop - start)
  else
    byteAt buf p = ExtensionKind.ssl.code ∧
      TlsErrorAt buf (p + recordHeaderLength) (p + recordHeaderLength + lengthAt buf p) e

theorem recordError_drop {buf : Bytes} {p : Nat} (h : p + recordHeaderLength ≤ buf.length) :
    Reader.recordError p (buf.drop p) = .overrun p (byteAt buf p) (lengthAt buf p) := by
  rw [Reader.recordError, if_neg (by rw [List.length_drop]; omega), byteAt_drop, lengthAt_drop]
  rfl

theorem stuck_extract_iff {buf : Bytes} {p stop : Nat} (hle : stop ≤ buf.length) :
    Stuck Item.encode (buf.extract p stop) ↔ stop - p < recordHeaderLength ∨
      lengthAt buf p = 0 ∨ stop < p + recordHeaderLength + lengthAt buf p := by
  rw [Item.stuck_iff, length_extract hle]
  rcases Nat.lt_or_ge (stop - p) recordHeaderLength with hlt | hge
  · simp only [hlt, true_or]
  · have h₃ : recordHeaderLength = 3 := rfl
    have hfront := extract_append_drop buf (show p ≤ stop by omega)
    rw [lengthAt_of_drop_eq hfront.symm (by rw [length_extract hle]; omega)]
    omega

theorem SubErrorAt.stuck {buf : Bytes} {stop q : Nat} {e : HeaderError}
    (hle : stop ≤ buf.length) (h : SubErrorAt buf stop q e) :
    Stuck Item.encode (buf.extract q stop) := by
  rw [stuck_extract_iff hle]
  unfold SubErrorAt at h
  split at h
  next hlt => exact Or.inl hlt
  next => exact Or.inr h.1

theorem SubErrorAt.unique {buf : Bytes} {stop q : Nat} {e e' : HeaderError}
    (h : SubErrorAt buf stop q e) (h' : SubErrorAt buf stop q e') : e = e' := by
  unfold SubErrorAt at h h'
  split at h
  next hlt => rw [h, (if_pos hlt).mp h']
  next hge => rw [h.2, ((if_neg hge).mp h').2]

/-- At most one error says what is wrong inside a TLS value. -/
theorem TlsErrorAt.unique {buf : Bytes} {start stop : Nat} {e e' : HeaderError}
    (hle : stop ≤ buf.length) (h : TlsErrorAt buf start stop e)
    (h' : TlsErrorAt buf start stop e') : e = e' := by
  unfold TlsErrorAt at h h'
  split at h
  next hshort => rw [h, (if_pos hshort).mp h']
  next hlong =>
    rw [if_neg hlong] at h'
    obtain ⟨q, hq₁, hq₂, ⟨items, hitems⟩, herr⟩ := h
    obtain ⟨q', hq₁', hq₂', ⟨items', hitems'⟩, herr'⟩ := h'
    -- both positions are where the only run of items that cannot go on ends
    obtain rfl : q = q' := Nat.le_antisymm
      (Item.prefixCode.le_of_stuck hle hq₁' (Nat.le_of_lt hq₂) hitems' (herr'.stuck hle) hitems)
      (Item.prefixCode.le_of_stuck hle hq₁ (Nat.le_of_lt hq₂') hitems (herr.stuck hle) hitems')
    exact herr.unique herr'

/-- At most one error says what is wrong with a record. -/
theorem ErrorAt.unique {buf : Bytes} {start stop p : Nat} {e e' : HeaderError}
    (h : ErrorAt buf start stop p e)
    (h' : ErrorAt buf start stop p e') : e = e' := by
  unfold ErrorAt at h h'
  split at h
  next hc => rw [h, (if_pos hc).mp h']
  next hc =>
    rw [if_neg hc] at h'
    split at h
    next hc => rw [h, (if_pos hc).mp h']
    next hc =>
      rw [if_neg hc] at h'
      split at h
      next hc => rw [h, (if_pos hc).mp h']
      next hc =>
        rw [if_neg hc] at h'
        exact h.2.unique (by omega) h'.2

/-- What is wrong with bytes that stand from `start` up to `stop` and are no TLS value. -/
theorem SslInfo.read_of_not_tlsValue {buf value rest : Bytes} {start : Nat}
    (hbuf : buf.drop start = value ++ rest) (h : ∀ v : TlsValue, v.encode ≠ value) :
    ∃ e, (SslInfo.read value start).result = .error e ∧
      TlsErrorAt buf start (start + value.length) e := by
  rcases SslInfo.read_of_not_encode h start with
    ⟨hlt, hres⟩ | ⟨v, tail, rfl, hne, hs, hres⟩
  · refine ⟨_, hres, ?_⟩
    rw [TlsErrorAt, Nat.add_sub_cancel_left, if_pos hlt]
  · refine ⟨_, hres, ?_⟩
    have hpos := List.length_pos_iff.mpr hne
    have hlen := v.length_encode
    rw [List.append_assoc] at hbuf
    have htail := drop_add_of_drop_eq hbuf
    have hitems := extract_of_drop_eq (TlsValue.drop_items hbuf)
    rw [TlsErrorAt, List.length_append, Nat.add_sub_cancel_left, if_neg (by omega)]
    refine ⟨start + v.encode.length, by omega, by omega, ⟨v.items, ?_⟩, ?_⟩
    · rw [hlen, ← Nat.add_assoc, hitems]
    · rw [SubErrorAt, ← Nat.add_assoc, Nat.add_sub_cancel_left, Reader.recordError]
      split
      · rfl
      next hge =>
        have h₃ : recordHeaderLength = 3 := rfl
        have hs' := Item.stuck_iff.mp hs
        rw [lengthAt_of_drop_eq htail (by omega)] at hs' ⊢
        rw [byteAt_of_drop_eq htail hpos]
        exact ⟨by omega, rfl⟩

/-! ## Walks over regions -/

namespace Extension

/-- The error of a TLS record is that of its value. -/
theorem ofRecord_result_of_ssl {i : Item} {offset : Nat} {e : HeaderError}
    (hc : i.code = ExtensionKind.ssl.code)
    (h : (SslInfo.read i.payload (offset + recordHeaderLength)).result = .error e) :
    (ofRecord (i.record offset)).result = .error e := by
  rw [ofRecord_of_ssl hc, Walk.map, h]
  rfl

/-- Where no well-formed record stands the walk ends, with an error that says why. -/
theorem readAll_of_firstDefect {buf : Bytes} {start stop p : Nat} (hlen : stop ≤ buf.length)
    (hp : FirstDefect buf start stop p) :
    ∃ e, (readAll (stop - start) ⟨start, p - start, buf.drop p⟩).result = .error e ∧
      ErrorAt buf start stop p e := by
  have hle := hp.start_le
  have hlt := hp.lt_stop
  unfold ErrorAt
  split
  next hshort =>
    refine ⟨_, ?_, rfl⟩
    rw [readAll_of_short (by simp only; omega) (by simp only; omega)]
    simp only [Walk.fail, Reader.offset]
    congr 2 <;> omega
  next hge =>
    have hstart : start + (p - start) = p := by omega
    have hzero : lengthAt (buf.drop p) 0 = lengthAt buf p := by
      rw [lengthAt_drop, Nat.add_zero]
    split
    next hn =>
      refine ⟨_, ?_, rfl⟩
      have hs : Stuck Item.encode (buf.drop p) := by
        rw [Item.stuck_iff, hzero, List.length_drop]
        omega
      rw [readAll_of_stuck (by omega) hs, hstart, recordError_drop (by omega)]
      rfl
    next hn =>
      obtain ⟨i, rest, hdrop, hcode, hi⟩ := Item.exists_eq_encode_append
        (show recordHeaderLength ≤ (buf.drop p).length by rw [List.length_drop]; omega)
        (by rw [hzero]; omega) (by rw [hzero, List.length_drop]; omega)
      have hsize : i.encode.length = recordHeaderLength + lengthAt buf p := by
        rw [i.length_encode, hi, hzero]
      rw [hdrop, readAll_encode_append _ _ _ (by omega), hstart, hsize]
      by_cases hover : stop < p + recordHeaderLength + lengthAt buf p
      · refine ⟨_, by rw [if_pos (by omega)]; rfl, ?_⟩
        rw [if_pos hover]
        congr 1
        omega
      · rw [if_neg (by omega)]
        obtain ⟨hssl, hvalue⟩ := hp.not_tlsValue_of_item hdrop (by omega)
        obtain ⟨e, he, herr⟩ := SslInfo.read_of_not_tlsValue (Item.drop_payload hdrop) hvalue
        refine ⟨e, by simp only [Walk.andThen, ofRecord_result_of_ssl hssl he], ?_⟩
        rw [if_neg hover]
        constructor
        · rw [← hssl, hcode, byteAt_drop, Nat.add_zero]
        · rw [← hzero, ← hi]
          exact herr

/-- A walk reads the well-formed records that a region opens with and goes on behind
them. -/
theorem walk_eq_after {buf : Bytes} {start p stop : Nat} {es : List ExtensionItem}
    (h₁ : start ≤ p) (h₂ : p ≤ stop) (hlen : stop ≤ buf.length)
    (hes : buf.extract start p = es.flatMap ExtensionItem.encode) :
    walk (buf.drop start) (stop - start) start =
      (readAll (stop - start) ⟨start, p - start, buf.drop p⟩).after
        (extensionsAt start es) (anomaliesAt start es) := by
  have hsize : (es.flatMap ExtensionItem.encode).length = p - start := by
    rw [← hes, length_extract (by omega)]
  have happ := readAll_append start (buf.drop p) es 0
    (show 0 + (es.flatMap ExtensionItem.encode).length ≤ stop - start by omega)
  rw [← hes, extract_append_drop buf h₁, hes, Nat.zero_add, hsize] at happ
  exact happ

/-- A walk over a tiled region reads its records and nothing behind them. -/
theorem walk_of_tiling {buf : Bytes} {start stop : Nat} {es : List ExtensionItem}
    (hle : start ≤ stop) (hlen : stop ≤ buf.length)
    (hes : buf.extract start stop = es.flatMap ExtensionItem.encode) :
    walk (buf.drop start) (stop - start) start =
      ⟨.ok (extensionsAt start es), anomaliesAt start es⟩ := by
  rw [walk_eq_after hle (Nat.le_refl _) hlen hes,
    readAll_of_le (r := ⟨start, stop - start, _⟩) (Nat.le_refl _)]
  simp [Walk.after, Walk.done, Except.map]

/-- A walk over a region that is not tiled ends in the error of its first defect. -/
theorem walk_of_firstDefect {buf : Bytes} {start stop p : Nat} (hlen : stop ≤ buf.length)
    (hp : FirstDefect buf start stop p) :
    ∃ e, (walk (buf.drop start) (stop - start) start).result = .error e ∧
      ErrorAt buf start stop p e := by
  obtain ⟨es, hes⟩ := hp.tiled
  obtain ⟨e, he, herr⟩ := readAll_of_firstDefect hlen hp
  refine ⟨e, ?_, herr⟩
  rw [walk_eq_after hp.start_le (Nat.le_of_lt hp.lt_stop) hlen hes]
  simp only [Walk.after, he]
  rfl

end Extension

end ProxyHeader
