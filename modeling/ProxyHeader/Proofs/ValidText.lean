import ProxyHeader.Proofs.Utf8

/-!
# Valid text

Text is read back from the bytes that encode it. The written form of a character is read
as that character whatever follows it (`Utf8.pieces_encodeChar_append`), so strict reading
accepts exactly the bytes that encode some text (`Utf8.decode?_eq_some_iff`,
`Utf8.isSome_decode?_iff`), and the text in front of a bad byte stays as it is
(`Utf8.lossy_append`).

Bytes that encode no text have an invalid part. The replacement character stands for it in
their lossy text, which encodes to other bytes (`Utf8.encode_lossy_ne`).
-/

namespace ProxyHeader

namespace Utf8

/-- The bytes that encode a text. -/
def encode (s : String) : Bytes :=
  s.toUTF8.data.toList

theorem encode_eq_flatMap (s : String) : encode s = s.toList.flatMap String.utf8EncodeChar := by
  rw [encode, String.toUTF8_eq_toByteArray, ← String.utf8Encode_toList, List.utf8Encode,
    List.data_toByteArray]

/-! ## A character is read as it is written -/

/-- Continuation bytes that a reader waits for complete its character. -/
theorem State.pieces_inside_append (rest : Bytes) :
    ∀ (missing : Nat) (low high : UInt8) (bits : Nat) (part : Bytes),
      Completes missing low high part →
      (inside missing low high bits).pieces (part ++ rest) =
        some (Char.ofNat (assemble bits part)) :: start.pieces rest
  | 0, low, high, bits, part, h => by
    obtain ⟨x, rfl, hx⟩ := h
    simp only [List.singleton_append, pieces, step, if_pos hx]
    rfl
  | missing + 1, low, high, bits, part, h => by
    obtain ⟨x, part, rfl, hlow, hhigh, h⟩ := h
    have hstep : (inside (missing + 1) low high bits).pieces (x :: part ++ rest) =
        (inside missing 0x80 0xBF (bits * 64 + (x.toNat - 0x80))).pieces (part ++ rest) := by
      rw [List.cons_append, pieces, step, if_pos ⟨hlow, hhigh⟩]
      rfl
    rw [hstep, pieces_inside_append rest missing 0x80 0xBF _ part h, assemble, assemble,
      List.foldl_cons]

/-- After the byte `b` the reader waits for the bytes `part`, with these bits read. -/
def State.Awaits (b : UInt8) (part : Bytes) (bits : Nat) : Prop :=
  ∃ missing low high, lead b = ([], .inside missing low high bits) ∧
    Completes missing low high part

theorem State.Awaits.pieces_append {b : UInt8} {part : Bytes} {bits : Nat}
    (h : Awaits b part bits) (rest : Bytes) : start.pieces (b :: part ++ rest) =
      some (Char.ofNat (assemble bits part)) :: start.pieces rest := by
  obtain ⟨missing, low, high, hlead, hpart⟩ := h
  rw [List.cons_append, pieces_start_cons, hlead]
  exact pieces_inside_append rest missing low high bits part hpart

theorem State.awaits_two {b x : UInt8} (hb : 0xC2 ≤ b.toNat ∧ b.toNat < 0xE0)
    (hx : 0x80 ≤ x.toNat ∧ x.toNat ≤ 0xBF) : Awaits b [x] (b.toNat - 0xC0) := by
  have hge : ∀ k : UInt8, k.toNat ≤ 0xC2 → ¬ b < k := fun k hk =>
    Nat.not_lt.mpr (Nat.le_trans hk hb.1)
  refine ⟨0, 0x80, 0xBF, ?_, x, rfl, hx⟩
  rw [lead, if_neg (hge 0x80 (by decide)), if_neg (hge 0xC2 (by decide)),
    if_pos (show b < 0xE0 from hb.2)]

/-- After `0xE0` and `0xED` the first continuation byte has only part of its range. -/
theorem State.awaits_three {b x y : UInt8} (hb : 0xE0 ≤ b.toNat ∧ b.toNat < 0xF0)
    (hx : 0x80 ≤ x.toNat ∧ x.toNat ≤ 0xBF) (hy : 0x80 ≤ y.toNat ∧ y.toNat ≤ 0xBF)
    (hlow : b.toNat = 0xE0 → 0xA0 ≤ x.toNat) (hhigh : b.toNat = 0xED → x.toNat ≤ 0x9F) :
    Awaits b [x, y] (b.toNat - 0xE0) := by
  have hge : ∀ k : UInt8, k.toNat ≤ 0xE0 → ¬ b < k := fun k hk =>
    Nat.not_lt.mpr (Nat.le_trans hk hb.1)
  have hlead : lead b = if b = 0xE0 then ([], .inside 1 0xA0 0xBF 0)
      else if b = 0xED then ([], .inside 1 0x80 0x9F 0xD)
      else ([], .inside 1 0x80 0xBF (b.toNat - 0xE0)) := by
    rw [lead, if_neg (hge 0x80 (by decide)), if_neg (hge 0xC2 (by decide)),
      if_neg (hge 0xE0 (by decide)), if_pos (show b < 0xF0 from hb.2)]
  by_cases h₁ : b = 0xE0
  · have hx' := hlow (congrArg UInt8.toNat h₁)
    refine ⟨1, 0xA0, 0xBF, ?_, x, [y], rfl, hx', hx.2, y, rfl, hy⟩
    rw [hlead, if_pos h₁, h₁]
    rfl
  by_cases h₂ : b = 0xED
  · have hx' := hhigh (congrArg UInt8.toNat h₂)
    refine ⟨1, 0x80, 0x9F, ?_, x, [y], rfl, hx.1, hx', y, rfl, hy⟩
    rw [hlead, if_neg h₁, if_pos h₂, h₂]
    rfl
  · refine ⟨1, 0x80, 0xBF, ?_, x, [y], rfl, hx.1, hx.2, y, rfl, hy⟩
    rw [hlead, if_neg h₁, if_neg h₂]

/-- After `0xF0` and `0xF4` the first continuation byte has only part of its range. -/
theorem State.awaits_four {b x y z : UInt8} (hb : 0xF0 ≤ b.toNat ∧ b.toNat < 0xF5)
    (hx : 0x80 ≤ x.toNat ∧ x.toNat ≤ 0xBF) (hy : 0x80 ≤ y.toNat ∧ y.toNat ≤ 0xBF)
    (hz : 0x80 ≤ z.toNat ∧ z.toNat ≤ 0xBF) (hlow : b.toNat = 0xF0 → 0x90 ≤ x.toNat)
    (hhigh : b.toNat = 0xF4 → x.toNat ≤ 0x8F) : Awaits b [x, y, z] (b.toNat - 0xF0) := by
  have hge : ∀ k : UInt8, k.toNat ≤ 0xF0 → ¬ b < k := fun k hk =>
    Nat.not_lt.mpr (Nat.le_trans hk hb.1)
  have hlead : lead b = if b = 0xF0 then ([], .inside 2 0x90 0xBF 0)
      else if b < 0xF4 then ([], .inside 2 0x80 0xBF (b.toNat - 0xF0))
      else if b = 0xF4 then ([], .inside 2 0x80 0x8F 4) else ([none], .start) := by
    have hne : ∀ k : UInt8, k.toNat < 0xF0 → ¬ b = k := fun k hk h =>
      absurd (h ▸ hb.1) (Nat.not_le.mpr hk)
    rw [lead, if_neg (hge 0x80 (by decide)), if_neg (hge 0xC2 (by decide)),
      if_neg (hge 0xE0 (by decide)), if_neg (hne 0xE0 (by decide)),
      if_neg (hne 0xED (by decide)), if_neg (hge 0xF0 (by decide))]
  by_cases h₁ : b = 0xF0
  · have hx' := hlow (congrArg UInt8.toNat h₁)
    refine ⟨2, 0x90, 0xBF, ?_, x, [y, z], rfl, hx', hx.2, y, [z], rfl, hy.1, hy.2, z, rfl, hz⟩
    rw [hlead, if_pos h₁, h₁]
    rfl
  by_cases h₂ : b.toNat < 0xF4
  · refine ⟨2, 0x80, 0xBF, ?_, x, [y, z], rfl, hx.1, hx.2, y, [z], rfl, hy.1, hy.2, z, rfl, hz⟩
    rw [hlead, if_neg h₁, if_pos (show b < 0xF4 from h₂)]
  · have h₃ : b = 0xF4 := UInt8.toNat_inj.mp (show b.toNat = 0xF4 by omega)
    have hx' := hhigh (congrArg UInt8.toNat h₃)
    refine ⟨2, 0x80, 0x8F, ?_, x, [y, z], rfl, hx.1, hx', y, [z], rfl, hy.1, hy.2, z, rfl, hz⟩
    rw [hlead, if_neg h₁, if_neg (show ¬ b < 0xF4 from h₂), if_pos h₃, h₃]
    rfl

/-- A character is read as it is written, whatever follows it. -/
theorem pieces_encodeChar_append (c : Char) (rest : Bytes) :
    pieces (String.utf8EncodeChar c ++ rest) = some c :: pieces rest := by
  have hvalid : c.val.toNat < 0xD800 ∨ 0xDFFF < c.val.toNat ∧ c.val.toNat < 0x110000 := c.valid
  have hread : ∀ {b : UInt8} {part : Bytes} {bits : Nat}, State.Awaits b part bits →
      assemble bits part = c.val.toNat →
      pieces (b :: part ++ rest) = some c :: pieces rest := by
    intro b part bits h hn
    have hpieces := h.pieces_append rest
    rw [hn] at hpieces
    exact hpieces.trans (congrArg (some · :: _) (Char.ofNat_toNat c))
  have hbyte : ∀ {k : Nat}, k < 256 → (UInt8.ofNat k).toNat = k := fun hk =>
    UInt8.toNat_ofNat_of_lt' hk
  generalize hn : c.val.toNat = n at hvalid hread
  rw [String.utf8EncodeChar, hn]
  split
  next h =>
    have hb := hbyte (show n < 256 by omega)
    have hlt : (UInt8.ofNat n).toNat < 0x80 := by omega
    have hc : Char.ofNat n = c := hn ▸ Char.ofNat_toNat c
    rw [pieces, List.singleton_append, State.pieces_start_cons, State.lead,
      if_pos (show UInt8.ofNat n < 0x80 from hlt), hb, hc]
    rfl
  split
  next h₁ h₂ =>
    have hb := hbyte (show n / 64 % 0x20 + 0xC0 < 256 by omega)
    have hx := hbyte (show n % 0x40 + 0x80 < 256 by omega)
    refine hread (State.awaits_two (by omega) (by omega)) ?_
    simp only [assemble, List.foldl_cons, List.foldl_nil]
    omega
  split
  next h₁ h₂ h₃ =>
    have hb := hbyte (show n / 4096 % 0x10 + 0xE0 < 256 by omega)
    have hx := hbyte (show n / 64 % 0x40 + 0x80 < 256 by omega)
    have hy := hbyte (show n % 0x40 + 0x80 < 256 by omega)
    refine hread (State.awaits_three (by omega) (by omega) (by omega) (by omega) (by omega)) ?_
    simp only [assemble, List.foldl_cons, List.foldl_nil]
    omega
  next h₁ h₂ h₃ =>
    have hb := hbyte (show n / 262144 % 0x08 + 0xF0 < 256 by omega)
    have hx := hbyte (show n / 4096 % 0x40 + 0x80 < 256 by omega)
    have hy := hbyte (show n / 64 % 0x40 + 0x80 < 256 by omega)
    have hz := hbyte (show n % 0x40 + 0x80 < 256 by omega)
    refine hread (State.awaits_four (by omega) (by omega) (by omega) (by omega) (by omega)
      (by omega)) ?_
    simp only [assemble, List.foldl_cons, List.foldl_nil]
    omega

/-! ## Text is read as it is written -/

theorem pieces_encode_append (s : String) (rest : Bytes) :
    pieces (encode s ++ rest) = s.toList.map some ++ pieces rest := by
  rw [encode_eq_flatMap]
  induction s.toList with
  | nil => rfl
  | cons c cs ih =>
    rw [List.flatMap_cons, List.append_assoc, pieces_encodeChar_append, ih, List.map_cons,
      List.cons_append]

theorem mapM_map_some (cs : List Char) : (cs.map some).mapM id = some cs := by
  induction cs with
  | nil => rfl
  | cons c cs ih =>
    rw [List.map_cons, List.mapM_cons, ih]
    rfl

/-- Strict reading accepts what encodes a text, and gives that text. -/
theorem decode?_eq_some_iff {bs : Bytes} {s : String} : decode? bs = some s ↔ encode s = bs := by
  constructor
  · intro h
    rw [encode_eq_flatMap]
    exact flatMap_encode_of_decode? h
  · rintro rfl
    have hpieces := pieces_encode_append s []
    rw [List.append_nil, show pieces [] = [] from rfl, List.append_nil] at hpieces
    rw [decode?, hpieces, mapM_map_some, Option.map_some, String.ofList_toList]

/-- The bytes that are accepted are those that are valid UTF-8. -/
theorem isSome_decode?_iff (bs : Bytes) :
    (decode? bs).isSome = true ↔ bs.toByteArray.IsValidUTF8 := by
  have hencode : ∀ s, encode s = bs ↔ s.toUTF8 = bs.toByteArray := by
    intro s
    have hdata : s.toUTF8.data.toList.toByteArray = s.toUTF8 :=
      ByteArray.ext (by rw [List.data_toByteArray, Array.toArray_toList])
    rw [encode, ← List.toByteArray_inj, hdata]
  rw [Option.isSome_iff_exists]
  simp only [decode?_eq_some_iff, hencode]
  constructor
  · rintro ⟨s, hs⟩
    rw [← hs, String.toUTF8_eq_toByteArray]
    exact s.isValidUTF8
  · intro h
    exact ⟨.ofByteArray bs.toByteArray h, String.toUTF8_eq_toByteArray⟩

/-- Text in front of other bytes stays as it is. -/
theorem lossy_append {v : Bytes} {s : String} (h : decode? v = some s) (bs : Bytes) :
    lossy (v ++ bs) = s ++ lossy bs := by
  have hs : (s.toList.map some).map (fun piece => piece.getD replacement) = s.toList := by
    rw [List.map_map]
    exact List.map_id _
  rw [← decode?_eq_some_iff.mp h, lossy, pieces_encode_append, List.map_append, hs,
    String.ofList_append, String.ofList_toList, lossy]

/-! ## Bytes that encode no text -/

/-- Where strict reading fails there is an invalid part. -/
theorem none_mem_pieces {bs : Bytes} (h : decode? bs = none) : none ∈ pieces bs := by
  have hmem : ∀ ps : List (Option Char), ps.mapM id = none → none ∈ ps := by
    intro ps
    induction ps with
    | nil =>
      intro h
      nomatch h
    | cons p ps ih =>
      intro h
      cases p with
      | none => exact List.mem_cons_self
      | some c =>
        refine List.mem_cons_of_mem _ (ih ?_)
        cases hps : ps.mapM id with
        | none => rfl
        | some cs =>
          rw [List.mapM_cons, hps] at h
          nomatch h
  exact hmem _ (Option.map_eq_none_iff.mp h)

theorem replacement_mem_lossy {bs : Bytes} (h : decode? bs = none) :
    replacement ∈ (lossy bs).toList := by
  rw [lossy, String.toList_ofList]
  exact List.mem_map.mpr ⟨none, none_mem_pieces h, rfl⟩

/-- The lossy text of bytes that encode no text encodes to other bytes. -/
theorem encode_lossy_ne {bs : Bytes} (h : decode? bs = none) : encode (lossy bs) ≠ bs := by
  intro he
  rw [decode?_eq_some_iff.mpr he] at h
  exact nomatch h

end Utf8

end ProxyHeader
