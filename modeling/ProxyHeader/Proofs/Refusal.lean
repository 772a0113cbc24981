import ProxyHeader.Proofs.Header

/-!
# Why records are refused

Behind a preamble that is accepted, a header is refused exactly if its records have a
first defect, and the error is then the one that `ErrorAt` names for it
(`Info.read_eq_error_iff`). As there is one first defect at most, and one error for it,
the error says where the first defect in wire order is and of what kind
(`Info.firstDefect_of_read_eq_error`).
-/

namespace ProxyHeader

namespace Info

/-- Behind an accepted preamble reading fails exactly with the error of the first
defect. -/
theorem read_eq_error_iff {buf : Bytes} {p : Preamble} {e : HeaderError}
    (hp : Preamble.read buf = .ok p) : read buf = .error e ↔
      ∃ q, FirstDefect buf p.extensionsOffset p.totalLength q ∧
        ErrorAt buf p.extensionsOffset p.totalLength q e := by
  have hlen := Preamble.totalLength_le_of_read hp
  constructor
  · intro he
    rcases tiled_or_firstDefect p.extensionsOffset_le_totalLength hlen with ⟨es, hes⟩ | ⟨q, hq⟩
    · obtain ⟨a, -, -, hread⟩ := read_of_tiling hp hes
      simp [hread] at he
    · obtain ⟨e', hread, herr⟩ := read_of_firstDefect hp hq
      obtain rfl := Except.error.inj (hread.symm.trans he)
      exact ⟨q, hq, herr⟩
  · rintro ⟨q, hq, herr⟩
    obtain ⟨e', hread, herr'⟩ := read_of_firstDefect hp hq
    rw [hread, herr.unique herr']

/-- A header that is refused for its records has one first defect, and the error is the
one error that says what is wrong there. -/
theorem firstDefect_of_read_eq_error {buf : Bytes} {p : Preamble} {e : HeaderError}
    (hp : Preamble.read buf = .ok p) (he : read buf = .error e) :
    ∃ q, FirstDefect buf p.extensionsOffset p.totalLength q ∧
      (∀ q', FirstDefect buf p.extensionsOffset p.totalLength q' → q' = q) ∧
      ∀ e', ErrorAt buf p.extensionsOffset p.totalLength q e' ↔ e' = e := by
  obtain ⟨q, hq, herr⟩ := (read_eq_error_iff hp).mp he
  have hlen := Preamble.totalLength_le_of_read hp
  refine ⟨q, hq, fun q' hq' => hq'.unique hlen hq, fun e' => ?_⟩
  constructor
  · intro herr'
    exact herr'.unique herr
  · rintro rfl
    exact herr

end Info

/-- A host name, and then a TLS value in which a record runs past the end. -/
def brokenTls : Bytes :=
  signature ++ [0x21, 0x11, 0x00, 0x1C,
    192, 0, 2, 1, 198, 51, 100, 2, 0x30, 0x39, 0x01, 0xBB,
    0x02, 0x00, 0x01, 0x61,
    0x20, 0x00, 0x09, 0x01, 0, 0, 0, 0, 0x21, 0x00, 0x07, 0x54, 0x4C]

theorem Info.firstDefect_of_read_brokenTls :
    Preamble.read brokenTls = .ok ⟨.proxy, .inet, .stream, 12, 16⟩ ∧
      read brokenTls = .error (.overrun 40 0x21 7) ∧
      ∃ q, FirstDefect brokenTls 28 44 q ∧ (∀ q', FirstDefect brokenTls 28 44 q' → q' = q) ∧
        ∀ e', ErrorAt brokenTls 28 44 q e' ↔ e' = .overrun 40 0x21 7 := by
  have hp : Preamble.read brokenTls = .ok ⟨.proxy, .inet, .stream, 12, 16⟩ := by decide +kernel
  have he : read brokenTls = .error (.overrun 40 0x21 7) := by decide +kernel
  exact ⟨hp, he, firstDefect_of_read_eq_error hp he⟩

end ProxyHeader
