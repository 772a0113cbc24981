import ProxyHeader.Proofs.Phases

/-!
# Partial reads

A receiver does not know how long a header is before it has its first sixteen bytes. Until
then, and until all that these declare is there, reading answers with a short read, which
says how many bytes are needed (`Info.read_take_eq_shortRead_iff`).

A receiver that waits for as many bytes and reads again makes a run of refills
(`Refilled`). Each goes forward, to the end of the preamble and then to the end of the
header, so that there are two of them at most (`Refilled.asked_eq`), and on a stream that
holds what its preamble declares the run ends in another answer
(`exists_refilled`).
-/

namespace ProxyHeader

/-! ## Preambles that pass -/

theorem Family.blockLength_pos {f : Family} (hf : f ≠ .unspec) : 0 < f.blockLength := by
  cases f with
  | unspec => exact absurd rfl hf
  | inet => decide
  | inet6 => decide
  | unix => decide

namespace Preamble

/-- An accepted preamble passes the checks and declares what follows it. -/
theorem passes_of_read {buf : Bytes} {p : Preamble} (hp : read buf = .ok p) :
    Passes buf ∧ preambleLength + declaredLength buf = p.totalLength := by
  have hle := totalLength_le_of_read hp
  rw [totalLength_eq, extensionsOffset] at hle
  rw [read_of_le (by omega)] at hp
  split at hp
  · simp at hp
  next htext =>
    split at hp
    · simp at hp
    next hsig =>
      obtain ⟨hv, hf, -, hfamily, htransport, hblock, hsum, -⟩ := check_eq_ok_iff.mp hp
      have hserved := servedProtocol?_eq_some_iff.mpr ⟨hfamily, htransport, hf⟩
      refine ⟨⟨?_, not_not.mp hsig, ?_, ?_, p.family, p.transport, hserved, ?_⟩, ?_⟩
      · rwa [List.isPrefixOf_iff_prefix] at htext
      · rw [hv]
        rfl
      · rw [hv]
        rfl
      · omega
      · rw [totalLength]
        omega

/-- A preamble that passes the checks is accepted when what it declares is there. -/
theorem exists_read_eq_ok {buf : Bytes} (h : Passes buf)
    (hle : preambleLength + declaredLength buf ≤ buf.length) : ∃ p, read buf = .ok p := by
  obtain ⟨hnot, hsig, hv, hc, f, t, hp, hroom⟩ := h
  rw [← List.isPrefixOf_iff_prefix] at hnot
  rw [← Command.ofNibble?_eq_some_iff] at hc
  rw [read_of_le (by omega), if_neg hnot, if_neg (not_not_intro hsig), check,
    if_neg (not_not_intro hv), if_neg (not_not_intro hc), hp]
  simp only
  rw [if_neg (by omega), if_neg (by omega)]
  exact ⟨_, rfl⟩

end Preamble

/-! ## Short reads -/

namespace Info

/-- Only the preamble is read short. -/
theorem read_eq_shortRead_iff {buf : Bytes} {expected actual : Nat} :
    read buf = .error (.shortRead expected actual) ↔
      Preamble.read buf = .error (.shortRead expected actual) := by
  constructor
  · intro h
    rcases error_cases h with ⟨hp, -⟩ | ⟨p, -, habout⟩
    · exact hp
    · exact nomatch habout.isExtensionError
  · exact read_of_preamble_eq_error

/-- The first `k` bytes of a stream are read short if they are less than a preamble, or
if the preamble passes and declares more than follows it. -/
theorem read_take_eq_shortRead_iff {s : Bytes} {k expected actual : Nat} (hk : k ≤ s.length) :
    read (s.take k) = .error (.shortRead expected actual) ↔ actual = k ∧
      ((k < preambleLength ∧ expected = preambleLength) ∨
        (preambleLength ≤ k ∧ Preamble.Passes s ∧ k < preambleLength + declaredLength s ∧
          expected = preambleLength + declaredLength s)) := by
  rw [read_eq_shortRead_iff, Preamble.read_eq_shortRead_iff, List.length_take,
    Nat.min_eq_left hk]
  refine and_congr_right fun _ => or_congr_right (and_congr_right fun h => ?_)
  rw [Preamble.passes_take_iff h, declaredLength_take h]

/-- A short read asks for more than there is. -/
theorem lt_of_read_take {s : Bytes} {k expected actual : Nat} (hk : k ≤ s.length)
    (h : read (s.take k) = .error (.shortRead expected actual)) : k < expected := by
  obtain ⟨-, ⟨hlt, rfl⟩ | ⟨-, -, hlt, rfl⟩⟩ := (read_take_eq_shortRead_iff hk).mp h
  · exact hlt
  · exact hlt

/-- No bytes that end before an accepted header does are accepted. -/
theorem read_take_of_lt {s : Bytes} {i : Info} (h : read s = .ok i) {k : Nat}
    (hk : k < i.preamble.totalLength) :
    ∃ expected, read (s.take k) = .error (.shortRead expected k) := by
  have hp := preamble_of_read h
  have hle := Preamble.totalLength_le_of_read hp
  obtain ⟨hpasses, htotal⟩ := Preamble.passes_of_read hp
  rw [← htotal] at hk hle
  rcases Nat.lt_or_ge k preambleLength with hlt | hge
  · exact ⟨_, (read_take_eq_shortRead_iff (by omega)).mpr ⟨rfl, Or.inl ⟨hlt, rfl⟩⟩⟩
  · exact ⟨_, (read_take_eq_shortRead_iff (by omega)).mpr ⟨rfl, Or.inr ⟨hge, hpasses, hk, rfl⟩⟩⟩

end Info

/-! ## Refills -/

/-- A stream that holds a preamble, and all that this declares if it passes. -/
structure HoldsDeclared (s : Bytes) : Prop where
  preamble : preambleLength ≤ s.length
  declared : Preamble.Passes s → preambleLength + declaredLength s ≤ s.length

/-- A receiver that has the first `k` bytes of the stream gets an answer: when these are
read short it reads again with exactly as many as are needed, and `asked` says how many
these were in turn. -/
inductive Refilled (s : Bytes) : Nat → List Nat → Except HeaderError Info → Prop where
  | answered {k : Nat} (h : ∀ e a, Info.read (s.take k) ≠ .error (.shortRead e a)) :
    Refilled s k [] (Info.read (s.take k))
  | refill {k expected actual : Nat} {asked : List Nat} {answer : Except HeaderError Info}
    (h : Info.read (s.take k) = .error (.shortRead expected actual))
    (there : expected ≤ s.length) (next : Refilled s expected asked answer) :
    Refilled s k (expected :: asked) answer

/-- Where a stream is read short, it holds what is asked for. -/
theorem HoldsDeclared.le_length {s : Bytes} (hs : HoldsDeclared s) {k expected actual : Nat}
    (hk : k ≤ s.length) (h : Info.read (s.take k) = .error (.shortRead expected actual)) :
    expected ≤ s.length := by
  obtain ⟨-, ⟨-, rfl⟩ | ⟨-, hpasses, -, rfl⟩⟩ := (Info.read_take_eq_shortRead_iff hk).mp h
  · exact hs.preamble
  · exact hs.declared hpasses

/-- Refilling comes to an end. -/
theorem HoldsDeclared.exists_refilled {s : Bytes} (hs : HoldsDeclared s) (k : Nat)
    (hk : k ≤ s.length) : ∃ asked answer, Refilled s k asked answer := by
  -- what is left of the stream gets less with every refill
  induction hn : s.length - k using Nat.strongRecOn generalizing k with
  | ind n ih =>
    by_cases hshort : ∃ e a, Info.read (s.take k) = .error (.shortRead e a)
    · obtain ⟨expected, actual, h⟩ := hshort
      have hlt := Info.lt_of_read_take hk h
      have hle := hs.le_length hk h
      obtain ⟨asked, answer, hnext⟩ := ih _ (by omega) expected hle rfl
      exact ⟨_, _, .refill h hle hnext⟩
    · exact ⟨_, _, .answered fun e a h => hshort ⟨e, a, h⟩⟩

namespace Refilled

variable {s : Bytes} {k : Nat} {asked : List Nat} {answer : Except HeaderError Info}

/-- The answer is what is read of the bytes asked for last, and is no short read. -/
theorem answer_eq (h : Refilled s k asked answer) :
    answer = Info.read (s.take (asked.getLastD k)) ∧
      ∀ e a, answer ≠ .error (.shortRead e a) := by
  induction h with
  | answered h => exact ⟨rfl, h⟩
  | refill _ _ _ ih => rwa [List.getLastD_cons]

/-- When the preamble is there, a receiver asks at most for all that it declares. -/
theorem asked_of_le (h : Refilled s k asked answer) (hk : k ≤ s.length)
    (hle : preambleLength ≤ k) :
    asked = [] ∨ (Preamble.Passes s ∧ asked = [preambleLength + declaredLength s]) := by
  cases h with
  | answered _ => exact Or.inl rfl
  | refill h there next =>
    obtain ⟨-, ⟨hlt, -⟩ | ⟨-, hpasses, -, rfl⟩⟩ := (Info.read_take_eq_shortRead_iff hk).mp h
    · omega
    · cases next with
      | answered _ => exact Or.inr ⟨hpasses, rfl⟩
      | refill h' _ _ =>
        obtain ⟨-, ⟨hlt, -⟩ | ⟨-, -, hlt, -⟩⟩ := (Info.read_take_eq_shortRead_iff there).mp h'
        · omega
        · omega

/-- A receiver asks for the preamble if that is not there, and then for all that it
declares. -/
theorem asked_eq (h : Refilled s k asked answer) (hk : k ≤ s.length) :
    ∃ rest, (rest = [] ∨ (Preamble.Passes s ∧ rest = [preambleLength + declaredLength s])) ∧
      (asked = rest ∨ asked = preambleLength :: rest) := by
  rcases Nat.lt_or_ge k preambleLength with hlt | hge
  · cases h with
    | answered h =>
      exact absurd ((Info.read_take_eq_shortRead_iff hk).mpr ⟨rfl, Or.inl ⟨hlt, rfl⟩⟩) (h _ _)
    | refill h there next =>
      obtain ⟨-, ⟨-, rfl⟩ | ⟨hge, -⟩⟩ := (Info.read_take_eq_shortRead_iff hk).mp h
      · exact ⟨_, next.asked_of_le there (Nat.le_refl _), Or.inr rfl⟩
      · omega
  · exact ⟨_, h.asked_of_le hk hge, Or.inl rfl⟩

/-- There are two refills at most, the second up to the end of the header. -/
theorem refills (h : Refilled s k asked answer) (hk : k ≤ s.length) (hs : HoldsDeclared s) :
    asked.length ≤ 2 ∧ ∀ first second, asked = [first, second] → first = preambleLength ∧
      ∃ p, Preamble.read s = .ok p ∧ second = p.totalLength := by
  obtain ⟨rest, hrest, hasked⟩ := h.asked_eq hk
  rcases hrest with rfl | ⟨hpasses, rfl⟩
  · rcases hasked with rfl | rfl
    · exact ⟨by decide, nofun⟩
    · exact ⟨by simp, nofun⟩
  · rcases hasked with rfl | rfl
    · exact ⟨by simp, nofun⟩
    · refine ⟨by simp, fun first second heq => ?_⟩
      obtain ⟨rfl, rfl⟩ : preambleLength = first ∧ preambleLength + declaredLength s = second := by
        simpa using heq
      obtain ⟨p, hp⟩ := Preamble.exists_read_eq_ok hpasses (hs.declared hpasses)
      exact ⟨rfl, p, hp, (Preamble.passes_of_read hp).2⟩

end Refilled

namespace Info

/-- Nothing behind an accepted header is needed to read it. -/
theorem read_take_totalLength {s : Bytes} {i : Info} (h : read s = .ok i) :
    read (s.take i.preamble.totalLength) = .ok i := by
  obtain ⟨header, t, rfl, hi⟩ := read_eq_ok_iff.mp h
  rw [hi.preamble, header.encode_append_take]
  exact read_eq_ok_iff.mpr ⟨header, [], (List.append_nil _).symm, hi⟩

/-- An accepted header is read after two refills when not even its preamble is there. -/
theorem refilled_of_read {s : Bytes} {i : Info} (h : read s = .ok i) {k : Nat}
    (hk : k < preambleLength) :
    Refilled s k [preambleLength, i.preamble.totalLength] (.ok i) := by
  have hp := preamble_of_read h
  have hle := Preamble.totalLength_le_of_read hp
  obtain ⟨hpasses, htotal⟩ := Preamble.passes_of_read hp
  have hblock : 0 < i.preamble.blockLength := by
    obtain ⟨hvalid, -⟩ := Preamble.read_eq_ok_iff.mp hp
    rw [hvalid.blockLength]
    exact Family.blockLength_pos hvalid.family
  have hlt : preambleLength < i.preamble.totalLength := by
    rw [Preamble.totalLength]
    omega
  have hfirst : read (s.take k) = .error (.shortRead preambleLength k) :=
    (read_take_eq_shortRead_iff (by omega)).mpr ⟨rfl, Or.inl ⟨hk, rfl⟩⟩
  have hsecond : read (s.take preambleLength) =
      .error (.shortRead i.preamble.totalLength preambleLength) :=
    (read_take_eq_shortRead_iff (by omega)).mpr
      ⟨rfl, Or.inr ⟨Nat.le_refl _, hpasses, by omega, htotal.symm⟩⟩
  have hlast := read_take_totalLength h
  refine .refill hfirst (by omega) (.refill hsecond hle ?_)
  rw [← hlast]
  exact .answered fun e a heq => by simp [hlast] at heq

end Info

/-- The first `k` bytes of a stream are read short exactly if they are less than a
preamble, or if the first sixteen pass the checks and declare more than follows them. The
error says how many there are and how many are needed, which is more.

So on a stream that holds what it declares, a receiver that reads again with as many bytes
as it was asked for gets an answer that is no short read, after two refills at most and
the second of them up to the end of the header; and an accepted header does not begin with
another one. -/
theorem Info.read_partial (s : Bytes) :
    (∀ k ≤ s.length, ∀ expected actual,
      (read (s.take k) = .error (.shortRead expected actual) ↔ actual = k ∧
        ((k < preambleLength ∧ expected = preambleLength) ∨
          (preambleLength ≤ k ∧ Preamble.Passes (s.take preambleLength) ∧
            k < preambleLength + declaredLength (s.take preambleLength) ∧
            expected = preambleLength + declaredLength (s.take preambleLength)))) ∧
      (read (s.take k) = .error (.shortRead expected actual) → actual < expected)) ∧
    (HoldsDeclared s → ∀ k ≤ s.length, (∃ asked answer, Refilled s k asked answer) ∧
      ∀ asked answer, Refilled s k asked answer →
        answer = read (s.take (asked.getLastD k)) ∧ (∀ e a, answer ≠ .error (.shortRead e a)) ∧
        asked.length ≤ 2 ∧ ∀ first second, asked = [first, second] →
          first = preambleLength ∧ ∃ p, Preamble.read s = .ok p ∧ second = p.totalLength) ∧
    ∀ i, read s = .ok i →
      (∀ k < i.preamble.totalLength,
        ∃ expected, read (s.take k) = .error (.shortRead expected k)) ∧
      ∀ k < preambleLength,
        Refilled s k [preambleLength, i.preamble.totalLength] (.ok i) := by
  refine ⟨?_, ?_, ?_⟩
  · intro k hk expected actual
    rw [Preamble.passes_take_iff (Nat.le_refl _), declaredLength_take (Nat.le_refl _)]
    refine ⟨read_take_eq_shortRead_iff hk, fun h => ?_⟩
    obtain ⟨rfl, -⟩ := (read_take_eq_shortRead_iff hk).mp h
    exact lt_of_read_take hk h
  · intro hs k hk
    refine ⟨hs.exists_refilled k hk, fun asked answer h => ?_⟩
    obtain ⟨hanswer, hshort⟩ := h.answer_eq
    exact ⟨hanswer, hshort, h.refills hk hs⟩
  · intro i hi
    exact ⟨fun k hk => read_take_of_lt hi hk, fun k hk => refilled_of_read hi hk⟩

end ProxyHeader
