import ProxyHeader.Proofs.Findings
import ProxyHeader.Proofs.Guard
import ProxyHeader.Proofs.Refusal

/-!
# Two phases

A header is refused in one of two phases. Validation of the preamble gives errors of its
own, none of them about a record (`Preamble.isExtensionError_eq_false_of_read`). Behind a
valid preamble the address block is there and is decoded, so that all that can fail is a
record: the error is then about the declared records (`HeaderError.IsAbout`) and names no
position outside them (`Info.isAbout_of_read_eq_error`). The positions that an accepted
header names lie among its records, too (`Info.mem_offsets_of_read`).

`Info.read_phases` puts this together with guarded reading, in which no difference falls
below zero and no bytes are missing that were counted before.
-/

namespace ProxyHeader

/-! ## Positions that are named -/

/-- The offset that an error names. -/
def HeaderError.offset? : HeaderError → Option Nat
  | truncated offset _ | overrun offset _ _ => some offset
  | _ => none

/-- How many bytes an error says the records have taken. -/
def HeaderError.consumed? : HeaderError → Option Nat
  | bufferOverrun consumed _ => some consumed
  | _ => none

/-- The offsets that are named in what is read of a header: those of the extensions, of
the records inside TLS values, and of the anomalies. -/
def Info.offsets (i : Info) : List Nat :=
  i.extensions.map (·.offset) ++
    i.extensions.flatMap (fun e => e.ssl?.toList.flatMap fun s => s.subExtensions.map (·.offset)) ++
    i.anomalies.filterMap (·.offset?)

/-- An error about records that are declared to stand from `start` up to `stop`, where
`received` bytes are there in all. -/
structure HeaderError.IsAbout (start stop received : Nat) (e : HeaderError) : Prop where
  isExtensionError : e.isExtensionError = true
  offset : ∀ o, e.offset? = some o → start ≤ o ∧ o < stop
  consumed : ∀ n, e.consumed? = some n → start + n ≤ received

theorem HeaderError.isExtensionError_of_offset? {e : HeaderError} {o : Nat}
    (h : e.offset? = some o) : e.isExtensionError = true := by
  unfold offset? at h
  split at h
  · rfl
  · rfl
  · nomatch h

theorem HeaderError.isExtensionError_of_consumed? {e : HeaderError} {n : Nat}
    (h : e.consumed? = some n) : e.isExtensionError = true := by
  unfold consumed? at h
  split at h
  · rfl
  · nomatch h

namespace HeaderError.IsAbout

variable {start stop received : Nat}

theorem truncated {offset : Nat} (remaining : Nat) (h₁ : start ≤ offset) (h₂ : offset < stop) :
    IsAbout start stop received (.truncated offset remaining) where
  isExtensionError := rfl
  offset _ ho := Option.some.inj ho ▸ ⟨h₁, h₂⟩
  consumed _ hn := nomatch hn

theorem overrun {offset : Nat} (kind : UInt8) (length : Nat) (h₁ : start ≤ offset)
    (h₂ : offset < stop) : IsAbout start stop received (.overrun offset kind length) where
  isExtensionError := rfl
  offset _ ho := Option.some.inj ho ▸ ⟨h₁, h₂⟩
  consumed _ hn := nomatch hn

theorem bufferOverrun {consumed : Nat} (expected : Nat) (h : start + consumed ≤ received) :
    IsAbout start stop received (.bufferOverrun consumed expected) where
  isExtensionError := rfl
  offset _ ho := nomatch ho
  consumed _ hn := Option.some.inj hn ▸ h

theorem mono {start' stop' : Nat} {e : HeaderError} (h : IsAbout start stop received e)
    (h₁ : start' ≤ start) (h₂ : stop ≤ stop') : IsAbout start' stop' received e where
  isExtensionError := h.isExtensionError
  offset o ho := by
    obtain ⟨hge, hlt⟩ := h.offset o ho
    exact ⟨Nat.le_trans h₁ hge, Nat.lt_of_lt_of_le hlt h₂⟩
  consumed n hn := Nat.le_trans (Nat.add_le_add_right h₁ n) (h.consumed n hn)

end HeaderError.IsAbout

/-! ## Errors of the preamble -/

namespace Preamble

theorem isExtensionError_eq_false_of_check {received declared : Nat} {vc ft : UInt8}
    {e : HeaderError} (h : check received vc ft declared = .error e) :
    e.isExtensionError = false := by
  have named : ∀ {x : HeaderError}, x.isExtensionError = false →
      (Except.error x : Except HeaderError Preamble) = .error e → e.isExtensionError = false :=
    fun hx heq => Except.error.inj heq ▸ hx
  unfold check at h
  split at h
  · exact named rfl h
  split at h
  · exact named rfl h
  split at h
  · exact named rfl h
  split at h
  · exact named rfl h
  split at h
  · exact named rfl h
  · simp at h

/-- Validation of the preamble says nothing about records. -/
theorem isExtensionError_eq_false_of_read {buf : Bytes} {e : HeaderError}
    (h : read buf = .error e) : e.isExtensionError = false := by
  rcases Nat.lt_or_ge buf.length preambleLength with hlt | hge
  · rw [read, if_pos hlt] at h
    rw [← Except.error.inj h]
    rfl
  · rw [read_of_le hge] at h
    split at h
    · rw [← Except.error.inj h]
      rfl
    split at h
    · rw [← Except.error.inj h]
      rfl
    · exact isExtensionError_eq_false_of_check h

end Preamble

/-! ## Errors of records -/

theorem SubErrorAt.isAbout {buf : Bytes} {stop q received : Nat} {e : HeaderError}
    (hq : q < stop) (h : SubErrorAt buf stop q e) : e.IsAbout q stop received := by
  unfold SubErrorAt at h
  split at h
  · subst h
    exact .truncated _ (Nat.le_refl q) hq
  · obtain ⟨-, rfl⟩ := h
    exact .overrun _ _ (Nat.le_refl q) hq

theorem TlsErrorAt.isAbout {buf : Bytes} {start stop received : Nat} {e : HeaderError}
    (hlt : start < stop) (h : TlsErrorAt buf start stop e) : e.IsAbout start stop received := by
  unfold TlsErrorAt at h
  split at h
  · subst h
    exact .truncated _ (Nat.le_refl start) hlt
  · obtain ⟨q, hstart, hstop, -, herr⟩ := h
    exact (herr.isAbout hstop).mono (by omega) (Nat.le_refl stop)

/-- The error of a record names no position outside the records, and counts no bytes that
were not received. -/
theorem ErrorAt.isAbout {buf : Bytes} {start stop p : Nat} {e : HeaderError} (hp : start ≤ p)
    (hlt : p < stop) (h : ErrorAt buf start stop p e) : e.IsAbout start stop buf.length := by
  unfold ErrorAt at h
  split at h
  · subst h
    exact .truncated _ hp hlt
  split at h
  · subst h
    exact .overrun _ _ hp hlt
  split at h
  · subst h
    exact .bufferOverrun _ (by omega)
  · obtain ⟨-, htls⟩ := h
    exact (htls.isAbout (by omega)).mono (by omega) (by omega)

namespace Info

/-- Behind a valid preamble every error is about the declared records. -/
theorem isAbout_of_read_eq_error {buf : Bytes} {p : Preamble} {e : HeaderError}
    (hp : Preamble.read buf = .ok p) (he : read buf = .error e) :
    e.IsAbout p.extensionsOffset p.totalLength buf.length := by
  obtain ⟨q, hq, herr⟩ := (read_eq_error_iff hp).mp he
  exact herr.isAbout hq.start_le hq.lt_stop

theorem read_of_preamble_eq_error {buf : Bytes} {e : HeaderError}
    (hp : Preamble.read buf = .error e) : read buf = .error e := by
  rw [read, hp]
  rfl

/-- A header is refused in one of two phases. -/
theorem error_cases {buf : Bytes} {e : HeaderError} (he : read buf = .error e) :
    (Preamble.read buf = .error e ∧ e.isExtensionError = false) ∨
      ∃ p, Preamble.read buf = .ok p ∧
        e.IsAbout p.extensionsOffset p.totalLength buf.length := by
  cases hp : Preamble.read buf with
  | error e' =>
    obtain rfl := Except.error.inj ((read_of_preamble_eq_error hp).symm.trans he)
    exact Or.inl ⟨rfl, Preamble.isExtensionError_eq_false_of_read hp⟩
  | ok p => exact Or.inr ⟨p, rfl, isAbout_of_read_eq_error hp he⟩

/-- An error is about records exactly if the preamble is valid. -/
theorem isExtensionError_iff_of_read {buf : Bytes} {e : HeaderError} (he : read buf = .error e) :
    e.isExtensionError = true ↔ ∃ p, Preamble.read buf = .ok p := by
  rcases error_cases he with ⟨hp, hnot⟩ | ⟨p, hp, habout⟩
  · simp [hp, hnot]
  · exact iff_of_true habout.isExtensionError ⟨p, hp⟩

end Info

/-! ## What is accepted -/

namespace Header.Describes

/-- What is read of a record lies among the records. -/
theorem bounds {h : Header} {i : Info} (hi : h.Describes i) {e : Extension}
    (he : e ∈ i.extensions) : h.preamble.extensionsOffset ≤ e.offset ∧
      e.offset + recordHeaderLength + e.payload.length ≤ h.preamble.totalLength := by
  rw [hi.extensions] at he
  obtain ⟨⟨o, item⟩, hmem, rfl⟩ := List.mem_map.mp he
  obtain ⟨hge, hle⟩ := bounds_of_mem_located hmem
  rw [item.length_encode, ← Nat.add_assoc] at hle
  exact ⟨hge, hle⟩

/-- The anomalies that stand at an offset are those of the records. -/
theorem filterMap_offset? {h : Header} {i : Info} (hi : h.Describes i) :
    i.anomalies.filterMap (·.offset?) =
      (anomaliesAt h.preamble.extensionsOffset h.records).filterMap (·.offset?) := by
  have hwarning : h.preamble.warning?.toList.filterMap (·.offset?) = [] := by
    rw [Preamble.toList_warning?]
    split <;> rfl
  have haddress : (Info.addressAnomalies i.addresses).filterMap (·.offset?) = [] := by
    cases i.addresses <;> rfl
  rw [hi.anomalies, List.filterMap_append, List.filterMap_append, hwarning, haddress]
  rfl

end Header.Describes

namespace Info

/-- All offsets that are read of an accepted header lie among its records. -/
theorem mem_offsets_of_read {buf : Bytes} {i : Info} (h : read buf = .ok i) {o : Nat}
    (ho : o ∈ i.offsets) : i.preamble.extensionsOffset ≤ o ∧ o < i.preamble.totalLength := by
  obtain ⟨header, t, rfl, hi⟩ := read_eq_ok_iff.mp h
  have h₃ : recordHeaderLength = 3 := rfl
  rw [hi.preamble]
  rcases List.mem_append.mp ho with ho | hanomaly
  · rcases List.mem_append.mp ho with hextension | hsub
    · obtain ⟨e, he, rfl⟩ := List.mem_map.mp hextension
      obtain ⟨hge, hle⟩ := Header.Describes.bounds hi he
      exact ⟨hge, by omega⟩
    · obtain ⟨e, he, hsub⟩ := List.mem_flatMap.mp hsub
      obtain ⟨s, hs, hsub⟩ := List.mem_flatMap.mp hsub
      obtain ⟨sub, hmem, rfl⟩ := List.mem_map.mp hsub
      obtain ⟨hge, hle⟩ := Header.Describes.bounds hi he
      have hstands := (hi.standsIn t he).2 s (Option.mem_toList.mp hs)
      obtain ⟨hge', hle'⟩ := hstands.inside sub hmem
      exact ⟨by omega, by omega⟩
  · rw [hi.filterMap_offset?] at hanomaly
    obtain ⟨a, ha, ho⟩ := List.mem_filterMap.mp hanomaly
    obtain ⟨o', ho', hge, hlt⟩ := (inOrder_anomaliesAt _ header.records).within a ha
    obtain rfl := Option.some.inj (ho'.symm.trans ho)
    exact ⟨hge, hlt⟩

/-! ## Both phases -/

/-- A header is refused in one of two phases, and no step of reading goes wrong in another
way than that.

Guarded reading answers as reading does. If the preamble is not valid its error is the
answer, and is not about records. If it is, all that it declares is there, the address
block is decoded, and every error is about the declared records. No offset that is named,
in an error or of an accepted header, and no number of bytes that records have taken, is
above the number of bytes received. -/
theorem read_phases (buf : Bytes) :
    (Guarded.read buf = guarded (read buf) ∧ Guarded.read buf ≠ .error .underflow ∧
      ∀ e, Guarded.read buf ≠ .error (.missing e)) ∧
    (∀ e, Preamble.read buf = .error e → read buf = .error e ∧ e.isExtensionError = false) ∧
    (∀ p, Preamble.read buf = .ok p → p.totalLength ≤ buf.length ∧
      (∃ a, Addresses.decode p.family
        (buf.extract preambleLength (preambleLength + p.blockLength)) = .ok a) ∧
      ∀ e, read buf = .error e → e.IsAbout p.extensionsOffset p.totalLength buf.length) ∧
    (∀ e, read buf = .error e →
      (e.isExtensionError = true ↔ ∃ p, Preamble.read buf = .ok p) ∧
      (∀ o, e.offset? = some o → o ≤ buf.length) ∧
      ∀ n, e.consumed? = some n → n ≤ buf.length) ∧
    ∀ i, read buf = .ok i → ∀ o ∈ i.offsets, o ≤ buf.length := by
  refine ⟨?_, ?_, ?_, ?_, ?_⟩
  · rw [Guarded.read_eq]
    cases read buf with
    | ok i => exact ⟨rfl, nofun, nofun⟩
    | error e => exact ⟨rfl, nofun, nofun⟩
  · intro e hp
    exact ⟨read_of_preamble_eq_error hp, Preamble.isExtensionError_eq_false_of_read hp⟩
  · intro p hp
    exact ⟨Preamble.totalLength_le_of_read hp, Preamble.exists_decode_of_read hp,
      fun e he => isAbout_of_read_eq_error hp he⟩
  · intro e he
    refine ⟨isExtensionError_iff_of_read he, ?_⟩
    rcases error_cases he with ⟨-, hnot⟩ | ⟨p, hp, habout⟩
    · have hne := Bool.eq_false_iff.mp hnot
      exact ⟨fun o ho => absurd (HeaderError.isExtensionError_of_offset? ho) hne,
        fun n hn => absurd (HeaderError.isExtensionError_of_consumed? hn) hne⟩
    · have hle := Preamble.totalLength_le_of_read hp
      refine ⟨fun o ho => ?_, fun n hn => ?_⟩
      · have hlt := (habout.offset o ho).2
        omega
      · have hreceived := habout.consumed n hn
        omega
  · intro i hi o ho
    have hle := Preamble.totalLength_le_of_read (preamble_of_read hi)
    have hlt := (mem_offsets_of_read hi ho).2
    omega

end Info

end ProxyHeader
