import ProxyHeader.Proofs.Refusal

/-!
# The stream behind a header

The bytes behind the declared length belong to the relayed connection. They do not
matter for what is read of a header that is accepted, nor for most errors: first defects
stay where they are (`firstDefect_append_iff`), and so do their errors
(`ErrorAt.append`).

The one exception is a record that runs past the received bytes (`RunsOut`). With more
bytes received it may be found to run past the declared length only
(`ErrorAt.append_of_lt`). It is refused either way, so that the bytes behind a header
never decide whether it is served (`Info.read_append_stream`).
-/

namespace ProxyHeader

/-! ## Regions of a longer buffer -/

theorem firstDefect_append_iff {buf : Bytes} {start stop p : Nat} (hlen : stop ≤ buf.length)
    (t : Bytes) : FirstDefect (buf ++ t) start stop p ↔ FirstDefect buf start stop p := by
  have htiled : p < stop → (Tiled (buf ++ t) start p ↔ Tiled buf start p) := fun hp => by
    rw [Tiled, Tiled, extract_append_of_le (by omega)]
  have hrest : (buf ++ t).extract p stop = buf.extract p stop := extract_append_of_le hlen t
  constructor
  · rintro ⟨hstart, hstop, htile, hstuck⟩
    exact ⟨hstart, hstop, (htiled hstop).mp htile, hrest ▸ hstuck⟩
  · rintro ⟨hstart, hstop, htile, hstuck⟩
    exact ⟨hstart, hstop, (htiled hstop).mpr htile, hrest ▸ hstuck⟩

/-! ## Errors in a longer buffer -/

theorem SubErrorAt.append {buf : Bytes} {stop q : Nat} {e : HeaderError}
    (hlen : stop ≤ buf.length) (h : SubErrorAt buf stop q e) (t : Bytes) :
    SubErrorAt (buf ++ t) stop q e := by
  unfold SubErrorAt at h ⊢
  split at h
  next hshort => rwa [if_pos hshort]
  next hge =>
    have h₃ : recordHeaderLength = 3 := rfl
    rw [if_neg hge, byteAt_append (by omega), lengthAt_append (by omega)]
    exact h

theorem TlsErrorAt.append {buf : Bytes} {start stop : Nat} {e : HeaderError}
    (hlen : stop ≤ buf.length) (h : TlsErrorAt buf start stop e) (t : Bytes) :
    TlsErrorAt (buf ++ t) start stop e := by
  unfold TlsErrorAt at h ⊢
  split at h
  next hshort => rwa [if_pos hshort]
  next hlong =>
    rw [if_neg hlong]
    obtain ⟨q, hstart, hstop, ⟨items, hitems⟩, herr⟩ := h
    refine ⟨q, hstart, hstop, ⟨items, ?_⟩, herr.append hlen t⟩
    rw [extract_append_of_le (by omega), hitems]

/-- An error stays what it is when more is received, unless it is that a record runs out
of received bytes. -/
theorem ErrorAt.append {buf : Bytes} {start stop p : Nat} {e : HeaderError}
    (hlen : stop ≤ buf.length) (h : ErrorAt buf start stop p e)
    (hend : stop < p + recordHeaderLength ∨ lengthAt buf p = 0 ∨
      p + recordHeaderLength + lengthAt buf p ≤ buf.length) (t : Bytes) :
    ErrorAt (buf ++ t) start stop p e := by
  unfold ErrorAt at h ⊢
  split at h
  next hshort => rwa [if_pos hshort]
  next hge =>
    have h₃ : recordHeaderLength = 3 := rfl
    rw [if_neg hge, byteAt_append (by omega), lengthAt_append (by omega), List.length_append]
    split at h
    next hover => rwa [if_pos (by omega)]
    next hin =>
      rw [if_neg (by omega)]
      split at h
      next hout => rwa [if_pos hout]
      next htls =>
        rw [if_neg htls]
        exact ⟨h.1, h.2.append (by omega) t⟩

/-- A record that runs past the received bytes runs past the declared length when enough
of them follow. -/
theorem ErrorAt.append_of_lt {buf : Bytes} {start stop p : Nat} (hlen : stop ≤ buf.length)
    (hstart : p + recordHeaderLength ≤ stop)
    (hlt : buf.length < p + recordHeaderLength + lengthAt buf p) (t : Bytes) :
    ErrorAt (buf ++ t) start stop p
      (if buf.length + t.length < p + recordHeaderLength + lengthAt buf p then
        .overrun p (byteAt buf p) (lengthAt buf p)
      else
        .bufferOverrun (p + recordHeaderLength + lengthAt buf p - start) (stop - start)) := by
  have h₃ : recordHeaderLength = 3 := rfl
  unfold ErrorAt
  rw [if_neg (by omega), byteAt_append (by omega), lengthAt_append (by omega), List.length_append]
  split
  next hshort => rw [if_pos (by omega)]
  next hlong => rw [if_pos (by omega), if_neg (by omega)]

/-- An error that names an overrun is about the record at `p`, or about one inside the
TLS value there. -/
theorem ErrorAt.of_overrun {buf : Bytes} {start stop p offset length : Nat} {kind : UInt8}
    (h : ErrorAt buf start stop p (.overrun offset kind length)) :
    (offset = p ∧ kind = byteAt buf p ∧ length = lengthAt buf p ∧
      p + recordHeaderLength ≤ stop ∧
        (length = 0 ∨ buf.length < p + recordHeaderLength + length)) ∨
      (p < offset ∧ offset ≤ stop) := by
  have h₃ : recordHeaderLength = 3 := rfl
  unfold ErrorAt at h
  split at h
  · simp at h
  next hge =>
    split at h
    next hover =>
      obtain ⟨rfl, rfl, rfl⟩ := HeaderError.overrun.inj h
      exact Or.inl ⟨rfl, rfl, rfl, by omega, hover⟩
    next hin =>
      split at h
      · simp at h
      next hstop =>
        obtain ⟨-, htls⟩ := h
        unfold TlsErrorAt at htls
        split at htls
        · simp at htls
        · obtain ⟨q, hq, hlt, -, herr⟩ := htls
          unfold SubErrorAt at herr
          split at herr
          · simp at herr
          · obtain ⟨rfl, -, -⟩ := HeaderError.overrun.inj herr.2
            exact Or.inr ⟨by omega, by omega⟩

/-! ## Reading a longer buffer -/

theorem Preamble.read_append {buf : Bytes} {p : Preamble} (hp : read buf = .ok p) (t : Bytes) :
    read (buf ++ t) = .ok p := by
  obtain ⟨hvalid, body, rfl, hle⟩ := read_eq_ok_iff.mp hp
  refine read_eq_ok_iff.mpr ⟨hvalid, body ++ t, List.append_assoc _ _ _, ?_⟩
  rw [List.length_append]
  omega

theorem Info.read_append_of_ok {buf : Bytes} {i : Info} (h : read buf = .ok i) (t : Bytes) :
    read (buf ++ t) = .ok i := by
  obtain ⟨header, t', rfl, hi⟩ := read_eq_ok_iff.mp h
  exact read_eq_ok_iff.mpr ⟨header, t' ++ t, List.append_assoc _ _ _, hi⟩

/-- Reading fails at a record after the address block whose value is not empty and not all
there: it runs past the received bytes. -/
structure RunsOut (buf : Bytes) (p : Preamble) (offset : Nat) (kind : UInt8) (length : Nat) :
    Prop where
  read_eq : Info.read buf = .error (.overrun offset kind length)
  tiled : Tiled buf p.extensionsOffset offset
  length_pos : 0 < length

/-- The error of a record that runs out of `received` bytes. -/
def runsOutError (p : Preamble) (received offset : Nat) (kind : UInt8) (length : Nat) :
    HeaderError :=
  if received < offset + recordHeaderLength + length then .overrun offset kind length
  else .bufferOverrun (offset + recordHeaderLength + length - p.extensionsOffset) p.extensionsLength

/-- The record that runs out is the first defect. -/
theorem RunsOut.firstDefect {buf : Bytes} {p : Preamble} {offset length : Nat} {kind : UInt8}
    (hp : Preamble.read buf = .ok p) (h : RunsOut buf p offset kind length) :
    FirstDefect buf p.extensionsOffset p.totalLength offset ∧ kind = byteAt buf offset ∧
      length = lengthAt buf offset ∧ offset + recordHeaderLength ≤ p.totalLength ∧
        buf.length < offset + recordHeaderLength + length := by
  have hlen := Preamble.totalLength_le_of_read hp
  have hpos := h.length_pos
  obtain ⟨q, hq, herr⟩ := (Info.read_eq_error_iff hp).mp h.read_eq
  rcases herr.of_overrun with ⟨rfl, hkind, hlength, hstart, hover⟩ | ⟨hlt, hle⟩
  · exact ⟨hq, hkind, hlength, hstart, by omega⟩
  · -- a record inside a TLS value does not start where a run of records ends
    have := hq.le_of_tiled hlen h.tiled hle
    omega

theorem RunsOut.read_append {buf : Bytes} {p : Preamble} {offset length : Nat} {kind : UInt8}
    (hp : Preamble.read buf = .ok p) (h : RunsOut buf p offset kind length) (t : Bytes) :
    Info.read (buf ++ t) =
      .error (runsOutError p (buf.length + t.length) offset kind length) := by
  have hlen := Preamble.totalLength_le_of_read hp
  obtain ⟨hq, rfl, rfl, hstart, hlt⟩ := h.firstDefect hp
  have herr : ErrorAt (buf ++ t) p.extensionsOffset p.totalLength offset _ :=
    ErrorAt.append_of_lt hlen hstart hlt t
  rw [p.totalLength_sub] at herr
  exact (Info.read_eq_error_iff (Preamble.read_append hp t)).mpr
    ⟨offset, (firstDefect_append_iff hlen t).mpr hq, herr⟩

theorem Info.read_append_of_not_runsOut {buf : Bytes} {p : Preamble}
    (hp : Preamble.read buf = .ok p)
    (h : ¬ ∃ offset kind length, RunsOut buf p offset kind length) (t : Bytes) :
    read (buf ++ t) = read buf := by
  have hlen := Preamble.totalLength_le_of_read hp
  cases he : read buf with
  | ok i => exact read_append_of_ok he t
  | error e =>
    obtain ⟨q, hq, herr⟩ := (read_eq_error_iff hp).mp he
    refine (read_eq_error_iff (Preamble.read_append hp t)).mpr
      ⟨q, (firstDefect_append_iff hlen t).mpr hq, herr.append hlen ?_ t⟩
    by_contra hend
    simp only [not_or, Nat.not_lt, Nat.not_le] at hend
    obtain ⟨hstart, hpos, hlt⟩ := hend
    have herr' : e = .overrun q (byteAt buf q) (lengthAt buf q) := by
      rw [ErrorAt, if_neg (by omega), if_pos (Or.inr hlt)] at herr
      exact herr
    exact h ⟨q, _, _, herr' ▸ he, hq.tiled, Nat.pos_of_ne_zero hpos⟩

/-- Whether a header is served does not depend on the bytes behind it, nor does anything
that is read of it, but for the error of a record that runs out of received bytes: when
enough of them follow, it runs past the declared length instead. -/
theorem Info.read_append_stream {buf : Bytes} {p : Preamble} (hp : Preamble.read buf = .ok p)
    (t : Bytes) :
    accepts (read (buf ++ t)) = accepts (read buf) ∧
    (∀ offset kind length, RunsOut buf p offset kind length →
      buf.length < offset + recordHeaderLength + length ∧
      read (buf ++ t) = .error (runsOutError p (buf.length + t.length) offset kind length)) ∧
    ((¬ ∃ offset kind length, RunsOut buf p offset kind length) →
      read (buf ++ t) = read buf) := by
  refine ⟨?_, ?_, fun h => read_append_of_not_runsOut hp h t⟩
  · by_cases h : ∃ offset kind length, RunsOut buf p offset kind length
    · obtain ⟨offset, kind, length, hout⟩ := h
      rw [hout.read_append hp t, hout.read_eq, accepts, accepts]
    · rw [read_append_of_not_runsOut hp h t]
  · intro offset kind length hout
    obtain ⟨-, -, -, -, hlt⟩ := hout.firstDefect hp
    exact ⟨hlt, hout.read_append hp t⟩

/-- A record of five bytes of which none were received. -/
def cutShort : Bytes :=
  signature ++ [0x21, 0x11, 0x00, 0x0F,
    192, 0, 2, 1, 198, 51, 100, 2, 0x30, 0x39, 0x01, 0xBB, 0x02, 0x00, 0x05]

theorem Info.read_append_stream_cutShort :
    Preamble.read cutShort = .ok ⟨.proxy, .inet, .stream, 12, 3⟩ ∧
      read cutShort = .error (.overrun 28 0x02 5) ∧
      read (cutShort ++ [1, 2, 3, 4]) = .error (.overrun 28 0x02 5) ∧
      read (cutShort ++ [1, 2, 3, 4, 5]) = .error (.bufferOverrun 8 3) := by
  have hp : Preamble.read cutShort = .ok ⟨.proxy, .inet, .stream, 12, 3⟩ := by decide +kernel
  have he : read cutShort = .error (.overrun 28 0x02 5) := by decide +kernel
  have hout : RunsOut cutShort ⟨.proxy, .inet, .stream, 12, 3⟩ 28 0x02 5 :=
    ⟨he, ⟨[], rfl⟩, by decide⟩
  obtain ⟨-, h₄, -⟩ := read_append_stream hp [1, 2, 3, 4]
  obtain ⟨-, h₅, -⟩ := read_append_stream hp [1, 2, 3, 4, 5]
  exact ⟨hp, he, (h₄ _ _ _ hout).2, (h₅ _ _ _ hout).2⟩

end ProxyHeader
