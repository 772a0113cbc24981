import ProxyHeader.Proofs.Noting

/-!
# Walks that start elsewhere

Where a walk starts is told by two numbers: the offset of its first byte, and how many
bytes were consumed before. Both go into what is reported and into nothing else. So a walk
from elsewhere ends alike, with all offsets shifted by one number and the counts of consumed
and expected bytes raised by another (`Extension.readAll_moved`).

With a greater offset and the same count this says that offsets are relative to the start of
a region (`Noting.walk_shift`). With the same offset and a greater count it says what a walk
does behind records that it has read: it goes on as a walk over the bytes behind them would
(`Noting.walk_append`).
-/

namespace ProxyHeader

/-! ## What is reported, elsewhere -/

/-- What is kept of a record inside a TLS value, with its offset shifted. -/
def SubExtension.shift (k : Nat) (sub : SubExtension) : SubExtension :=
  { sub with offset := sub.offset + k }

/-- A TLS session with the offsets of its records shifted. -/
def SslInfo.shift (k : Nat) (s : SslInfo) : SslInfo :=
  { s with subExtensions := s.subExtensions.map (·.shift k) }

/-- An extension with its offset, and those inside its TLS value, shifted. -/
def Extension.shift (k : Nat) (e : Extension) : Extension :=
  { e with offset := e.offset + k, ssl? := e.ssl?.map (·.shift k) }

/-- An anomaly with the offset that it stands at shifted. -/
def Anomaly.shift (k : Nat) : Anomaly → Anomaly
  | unknownExtension offset code => unknownExtension (offset + k) code
  | unknownSubtype offset code => unknownSubtype (offset + k) code
  | unsupportedTransport family transport => unsupportedTransport family transport
  | unixAddress => unixAddress

namespace HeaderError

/-- An error with the offset that it names shifted. -/
def shift (k : Nat) : HeaderError → HeaderError
  | truncated offset remaining => truncated (offset + k) remaining
  | overrun offset kind length => overrun (offset + k) kind length
  | e => e

/-- An error with `n` bytes more consumed and expected. -/
def behind (n : Nat) : HeaderError → HeaderError
  | bufferOverrun consumed expected => bufferOverrun (consumed + n) (expected + n)
  | e => e

end HeaderError

section NoShift

@[simp] theorem SubExtension.shift_zero : SubExtension.shift 0 = id :=
  rfl

@[simp] theorem SslInfo.shift_zero : SslInfo.shift 0 = id := by
  funext s
  simp [shift]

@[simp] theorem Extension.shift_zero : Extension.shift 0 = id := by
  funext e
  simp [shift]

@[simp] theorem Anomaly.shift_zero : Anomaly.shift 0 = id := by
  funext a
  cases a <;> rfl

@[simp] theorem HeaderError.shift_zero : HeaderError.shift 0 = id := by
  funext e
  cases e <;> rfl

@[simp] theorem HeaderError.behind_zero : HeaderError.behind 0 = id := by
  funext e
  cases e <;> rfl

end NoShift

/-! ## Walks, elsewhere -/

namespace Walk

variable {α β : Type}

/-- The walk with all offsets shifted by `k` and `n` bytes more counted. What it reads is
changed by `f`. -/
def moved (k n : Nat) (f : α → α) (w : Walk α) : Walk α :=
  ⟨(w.result.map f).mapError fun e => (e.shift k).behind n, w.anomalies.map (·.shift k)⟩

theorem moved_fail (k n : Nat) (f : α → α) (e : HeaderError) :
    (fail e).moved k n f = fail ((e.shift k).behind n) :=
  rfl

theorem moved_map {k n : Nat} {f : α → α} {g : β → β} {h h' : α → β}
    (hcomm : ∀ a, g (h a) = h' (f a)) (w : Walk α) :
    (w.map h).moved k n g = (w.moved k n f).map h' := by
  obtain ⟨_ | a, notes⟩ := w
  · rfl
  · simp only [moved, map, Except.map, Except.mapError, hcomm]

theorem moved_andThen {k n : Nat} {f : α → α} {g : β → β} {h h' : α → Walk β}
    (hcomm : ∀ a, (h a).moved k n g = h' (f a)) (w : Walk α) :
    (w.andThen h).moved k n g = (w.moved k n f).andThen h' := by
  obtain ⟨_ | a, notes⟩ := w
  · rfl
  · simp only [andThen, moved, Except.map, Except.mapError, ← hcomm, List.map_append]

theorem result_andThen_eq_ok_iff {f : α → Walk β} {w : Walk α} {b : β} :
    (w.andThen f).result = .ok b ↔ ∃ a, w.result = .ok a ∧ (f a).result = .ok b := by
  obtain ⟨_ | a, notes⟩ := w <;> simp [andThen]

theorem andThen_map_cons {w : Walk α} {a : α} (h : w.result = .ok a) (x : Walk (List α)) :
    (w.andThen fun a => x.map (a :: ·)) = x.after [a] w.anomalies := by
  rw [andThen, h]
  rfl

end Walk

/-! ## Inside a TLS value -/

theorem located_shift {α : Type} (write : α → Bytes) (k : Nat) :
    ∀ (offset : Nat) (as : List α), located write (offset + k) as =
      (located write offset as).map fun (o, a) => (o + k, a)
  | _, [] => rfl
  | offset, a :: as => by
    rw [located, located, List.map_cons, ← located_shift write k, Nat.add_right_comm]

theorem subExtensionsAt_shift (k offset : Nat) (items : List Item) :
    subExtensionsAt (offset + k) items = (subExtensionsAt offset items).map (·.shift k) := by
  rw [subExtensionsAt, located_shift, List.filterMap_map, subExtensionsAt, List.map_filterMap]
  congr 1
  funext x
  simp [Item.subExtension?, SubExtension.shift, Function.comp_def]

theorem subAnomaliesAt_shift (k offset : Nat) (items : List Item) :
    subAnomaliesAt (offset + k) items = (subAnomaliesAt offset items).map (·.shift k) := by
  rw [subAnomaliesAt, located_shift, List.filterMap_map, subAnomaliesAt, List.map_filterMap]
  congr 1
  funext x
  simp only [Function.comp_def, Item.subAnomaly?]
  split <;> rfl

theorem Reader.recordError_moved (k n offset : Nat) (bs : Bytes) :
    recordError (offset + k) bs = ((recordError offset bs).shift k).behind n := by
  unfold recordError
  split <;> rfl

theorem SslInfo.read_moved (k n : Nat) (value : Bytes) (base : Nat) :
    read value (base + k) = (read value base).moved k n (·.shift k) := by
  rcases Nat.lt_or_ge value.length headerLength with hshort | hlong
  · rw [read_of_short hshort, read_of_short hshort]
    rfl
  · obtain ⟨client, verify, rest, rfl⟩ := exists_eq_cons_append hlong
    obtain ⟨items, tail, rfl, hs⟩ := Item.prefixCode.exists_tiling rest
    rw [read_append_of_stuck hs, read_append_of_stuck hs, Nat.add_right_comm base,
      subExtensionsAt_shift, subAnomaliesAt_shift, Nat.add_right_comm _ k,
      Reader.recordError_moved k n]
    by_cases hnil : tail = []
    · simp only [if_pos hnil]
      rfl
    · simp only [if_neg hnil]
      rfl

/-! ## After the address block -/

namespace Extension

theorem ofRecord_moved (k n : Nat) (i : Item) (offset : Nat) :
    ofRecord (i.record (offset + k)) = (ofRecord (i.record offset)).moved k n (·.shift k) := by
  rw [ofRecord, ofRecord, Item.record, Item.record]
  cases ExtensionKind.ofCode i.code with
  | alpn => rfl
  | authority => rfl
  | unknown code => rfl
  | ssl =>
    simp only [Nat.add_right_comm offset k, SslInfo.read_moved k n]
    refine (Walk.moved_map (fun ssl => ?_) _).symm
    rfl

/-- A walk from elsewhere ends alike, with offsets shifted by `k` and counts raised by
`n`. -/
theorem readAll_moved {base base' k n : Nat} (h : base' + n = base + k) (expected : Nat)
    (consumed : Nat) (rest : Bytes) :
    readAll (expected + n) ⟨base', consumed + n, rest⟩ =
      (readAll expected ⟨base, consumed, rest⟩).moved k n (List.map (·.shift k)) := by
  have hoffset : ∀ c, base' + (c + n) = base + c + k := fun c => by omega
  -- what is left and the room for it are the same in both, so they stop at the same record
  induction hlen : rest.length using Nat.strongRecOn generalizing consumed rest with
  | ind m ih =>
    rcases Nat.lt_or_ge consumed expected with hlt | hle
    · by_cases hshort : expected - consumed < recordHeaderLength
      · rw [readAll_of_short (r := ⟨base, consumed, rest⟩) hlt hshort,
          readAll_of_short (by simp only; omega) (by simp only; omega)]
        simp only [Reader.offset, hoffset, Nat.add_sub_add_right]
        rfl
      · by_cases hstuck : Stuck Item.encode rest
        · rw [readAll_of_stuck (by omega) hstuck, readAll_of_stuck (by omega) hstuck, hoffset,
            Reader.recordError_moved k n, Walk.moved_fail]
        · obtain ⟨i, rest, rfl⟩ := not_stuck_iff.mp hstuck
          rw [readAll_encode_append _ _ _ (by omega), readAll_encode_append _ _ _ (by omega),
            hoffset]
          by_cases hover : expected < consumed + i.encode.length
          · rw [if_pos hover, if_pos (by omega), Nat.add_right_comm consumed n]
            rfl
          · rw [if_neg hover, if_neg (by omega), Nat.add_right_comm consumed n, ofRecord_moved k n]
            have hpos := i.length_encode_pos
            rw [List.length_append] at hlen
            have hrest := ih rest.length (by omega) (consumed + i.encode.length) rest rfl
            refine (Walk.moved_andThen (fun e => ?_) _).symm
            rw [hrest]
            refine Walk.moved_map (fun es => ?_) _
            rfl
    · rw [readAll_of_le (r := ⟨base, consumed, rest⟩) hle,
        readAll_of_le (r := ⟨base', consumed + n, rest⟩) (Nat.add_le_add_right hle n)]
      rfl

theorem walk_moved (region : Bytes) (expected base k : Nat) :
    walk region expected (base + k) =
      (walk region expected base).moved k 0 (List.map (·.shift k)) := by
  have h : base + k + 0 = base + k := rfl
  exact readAll_moved h expected 0 region

/-! ## Behind records that were read -/

/-- A walk that uses up its bytes does the same where more bytes follow, and goes on
there. -/
theorem readAll_append_of_ok {base stop : Nat} (extra : Nat) (bs : Bytes) {consumed : Nat}
    {rest : Bytes} {es : List Extension} (hstop : consumed + rest.length = stop)
    (h : (readAll stop ⟨base, consumed, rest⟩).result = .ok es) :
    readAll (stop + extra) ⟨base, consumed, rest ++ bs⟩ =
      (readAll (stop + extra) ⟨base, stop, bs⟩).after es
        (readAll stop ⟨base, consumed, rest⟩).anomalies := by
  induction hlen : rest.length using Nat.strongRecOn generalizing consumed rest es with
  | ind m ih =>
    by_cases hstuck : Stuck Item.encode rest
    · -- bytes that are left and open with no item would be an error
      rcases rest with _ | ⟨b, bs'⟩
      · obtain rfl : consumed = stop := hstop
        have hdone : readAll consumed ⟨base, consumed, []⟩ = .done [] :=
          readAll_of_le (Nat.le_refl _)
        rw [hdone] at h ⊢
        obtain rfl := Except.ok.inj h
        exact (Walk.after_nil _).symm
      · rw [List.length_cons] at hstop
        by_cases hshort : stop - consumed < recordHeaderLength
        · rw [readAll_of_short (by simp only; omega) hshort] at h
          nomatch h
        · rw [readAll_of_stuck (by omega) hstuck] at h
          nomatch h
    · obtain ⟨i, rest, rfl⟩ := not_stuck_iff.mp hstuck
      have hi := i.length_encode
      have hpos := i.length_encode_pos
      rw [List.length_append] at hstop hlen
      have hread := readAll_encode_append base i rest
        (show consumed + recordHeaderLength ≤ stop by omega)
      rw [if_neg (by omega)] at hread
      rw [hread] at h
      obtain ⟨e, he, hrest⟩ := Walk.result_andThen_eq_ok_iff.mp h
      rw [Walk.map_cons_eq_after] at hrest
      obtain ⟨fs, hfs, rfl⟩ := Walk.result_after_eq_ok_iff.mp hrest
      have hbehind := ih rest.length (by omega)
        (show consumed + i.encode.length + rest.length = stop by omega) hfs rfl
      rw [hread, Walk.andThen_map_cons he, List.append_assoc,
        readAll_encode_append base i (rest ++ bs) (by omega), if_neg (by omega),
        Walk.andThen_map_cons he, hbehind, Walk.after_after]
      rfl

theorem walk_append_of_ok {r₁ : Bytes} {base : Nat} {es₁ : List Extension}
    (h : (walk r₁ r₁.length base).result = .ok es₁) (r₂ : Bytes) (expected : Nat) :
    walk (r₁ ++ r₂) (r₁.length + expected) base =
      ((walk r₂ expected (base + r₁.length)).moved 0 r₁.length id).after es₁
        (walk r₁ r₁.length base).anomalies := by
  have hsame : base + r₁.length = base + r₁.length + 0 := rfl
  have hbehind := readAll_moved hsame expected 0 r₂
  simp only [shift_zero, id_eq, List.map_id_fun', Nat.zero_add] at hbehind
  rw [Nat.add_comm expected] at hbehind
  have happend := readAll_append_of_ok expected r₂ (Nat.zero_add _) h
  rw [hbehind] at happend
  exact happend

end Extension

namespace Noting

/-- Offsets are relative to the start of a region: a walk from an offset that is greater by
`k` ends alike and puts the same in the list, with `k` added to every offset. -/
theorem walk_shift (region : Bytes) (expected base k : Nat) :
    ∃ (result : Except HeaderError (List Extension)) (new : List Anomaly),
      Extension.walk region expected base = ⟨result, new⟩ ∧ ∀ notes,
        (walk region expected base).run notes = (result, notes ++ new) ∧
        (walk region expected (base + k)).run notes =
          ((result.map (List.map (Extension.shift k))).mapError (HeaderError.shift k),
            notes ++ new.map (Anomaly.shift k)) := by
  refine ⟨(Extension.walk region expected base).result,
    (Extension.walk region expected base).anomalies, rfl, fun notes => ⟨run_walk .., ?_⟩⟩
  rw [run_walk, Extension.walk_moved]
  simp only [Walk.moved, HeaderError.behind_zero, id_eq]

/-- A walk over records, and bytes behind them, is a walk over the records and then one over
the bytes behind, on the same list. What is counted by an error of the second counts the
bytes of the records, too. -/
theorem walk_append {r₁ : Bytes} {base : Nat} {es₁ : List Extension}
    {notes notes₁ : List Anomaly}
    (h : (walk r₁ r₁.length base).run notes = (.ok es₁, notes₁)) (r₂ : Bytes)
    (expected : Nat) :
    (walk (r₁ ++ r₂) (r₁.length + expected) base).run notes =
      match (walk r₂ expected (base + r₁.length)).run notes₁ with
      | (.ok es₂, notes₂) => (.ok (es₁ ++ es₂), notes₂)
      | (.error e, notes₂) => (.error (e.behind r₁.length), notes₂) := by
  rw [run_walk] at h
  obtain ⟨hes, rfl⟩ := Prod.mk.inj h
  rw [run_walk, run_walk, Extension.walk_append_of_ok hes]
  generalize Extension.walk r₂ expected (base + r₁.length) = w
  obtain ⟨_ | es₂, new⟩ := w <;> simp [Walk.moved, Walk.after, Except.map, Except.mapError]

/-- A negotiated protocol, and a record of a type that is not decoded. -/
def wholeRecords : Bytes :=
  [0x01, 0x00, 0x02, 0x68, 0x32, 0x04, 0x00, 0x01, 0x7A]

/-- A TLS value with an odd record inside, and a record that runs past 15 bytes. -/
def overlongRecords : Bytes :=
  [0x20, 0x00, 0x09, 0x01, 0x00, 0x00, 0x00, 0x00, 0x22, 0x00, 0x01, 0x61,
    0x02, 0x00, 0x05, 0x61, 0x62, 0x63, 0x64, 0x65]

/-- The records behind are 9 bytes in, which the counts of the error include. -/
theorem walk_append_overlongRecords :
    (walk wholeRecords wholeRecords.length 28).run [.unixAddress] =
      (.ok [⟨.alpn, 28, [0x68, 0x32], none⟩, ⟨.unknown 0x04, 33, [0x7A], none⟩],
        [.unixAddress, .unknownExtension 33 0x04]) ∧
    (walk (wholeRecords ++ overlongRecords) (wholeRecords.length + 15) 28).run [.unixAddress] =
      (.error (.bufferOverrun 29 24),
        [.unixAddress, .unknownExtension 33 0x04, .unknownSubtype 45 0x22]) := by
  have hwhole : (walk wholeRecords wholeRecords.length 28).run [.unixAddress] =
      (.ok [⟨.alpn, 28, [0x68, 0x32], none⟩, ⟨.unknown 0x04, 33, [0x7A], none⟩],
        [.unixAddress, .unknownExtension 33 0x04]) := by
    decide +kernel
  have hbehind : (walk overlongRecords 15 (28 + wholeRecords.length)).run
        [.unixAddress, .unknownExtension 33 0x04] =
      (.error (.bufferOverrun 20 15),
        [.unixAddress, .unknownExtension 33 0x04, .unknownSubtype 45 0x22]) := by
    decide +kernel
  refine ⟨hwhole, ?_⟩
  rw [walk_append hwhole overlongRecords 15, hbehind]
  rfl

end Noting

end ProxyHeader
