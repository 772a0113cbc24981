import Mathlib.Tactic.Common
import ProxyHeader.Text.Utf8

/-!
# Text and its bytes

Bytes fall into parts, each the written form of a character or a run that is none
(`Utf8.exists_part`). So valid text is written as the bytes it was read from
(`Utf8.flatMap_encode_of_decode?`) and two runs of bytes that are valid differ if their
texts do not (`Utf8.lossy_inj`).

An ASCII character stands in a text exactly if its byte stands in the bytes, whatever
else is wrong with them (`Utf8.mem_lossy_iff`): no part of a longer character and no
invalid part is below `0x80`.
-/

namespace ProxyHeader

namespace Utf8

/-! ## The bytes of a character -/

/-- The code point that continuation bytes make of the bits read before them. -/
def assemble (bits : Nat) (bs : Bytes) : Nat :=
  bs.foldl (fun n b => n * 64 + (b.toNat - 0x80)) bits

theorem val_ofNat {n : Nat} (h : n.isValidChar) : (Char.ofNat n).val.toNat = n := by
  rw [Char.ofNat, dif_pos h]
  rfl

theorem ofNat_eq {n : Nat} {b : UInt8} (h : n = b.toNat) : UInt8.ofNat n = b := by
  rw [h, UInt8.ofNat_toNat]

theorem encodeChar_one {b : UInt8} (h : b.toNat < 0x80) :
    String.utf8EncodeChar (Char.ofNat b.toNat) = [b] := by
  rw [String.utf8EncodeChar, val_ofNat (Or.inl (by omega))]
  simp only [if_pos (show b.toNat ≤ 0x7F by omega), UInt8.ofNat_toNat]

theorem encodeChar_two {b x : UInt8} {n : Nat} (hb : 0xC2 ≤ b.toNat ∧ b.toNat < 0xE0)
    (hx : 0x80 ≤ x.toNat ∧ x.toNat ≤ 0xBF)
    (hn : n = (b.toNat - 0xC0) * 64 + (x.toNat - 0x80)) :
    String.utf8EncodeChar (Char.ofNat n) = [b, x] := by
  have hfirst : UInt8.ofNat (n / 64 % 0x20 + 0xC0) = b := ofNat_eq (by omega)
  have hsecond : UInt8.ofNat (n % 0x40 + 0x80) = x := ofNat_eq (by omega)
  rw [String.utf8EncodeChar, val_ofNat (Or.inl (by omega))]
  simp only [if_neg (show ¬ n ≤ 0x7F by omega), if_pos (show n ≤ 0x7FF by omega), hfirst,
    hsecond]

theorem encodeChar_three {b x y : UInt8} {n : Nat} (hb : 0xE0 ≤ b.toNat ∧ b.toNat < 0xF0)
    (hx : 0x80 ≤ x.toNat ∧ x.toNat ≤ 0xBF) (hy : 0x80 ≤ y.toNat ∧ y.toNat ≤ 0xBF)
    (hn : n = ((b.toNat - 0xE0) * 64 + (x.toNat - 0x80)) * 64 + (y.toNat - 0x80))
    (hlow : 0x7FF < n) (hvalid : n < 0xD800 ∨ 0xDFFF < n) :
    String.utf8EncodeChar (Char.ofNat n) = [b, x, y] := by
  have hfirst : UInt8.ofNat (n / 4096 % 0x10 + 0xE0) = b := ofNat_eq (by omega)
  have hsecond : UInt8.ofNat (n / 64 % 0x40 + 0x80) = x := ofNat_eq (by omega)
  have hthird : UInt8.ofNat (n % 0x40 + 0x80) = y := ofNat_eq (by omega)
  have hchar : n.isValidChar := hvalid.imp id fun h => ⟨h, by omega⟩
  rw [String.utf8EncodeChar, val_ofNat hchar]
  simp only [if_neg (show ¬ n ≤ 0x7F by omega), if_neg (show ¬ n ≤ 0x7FF by omega),
    if_pos (show n ≤ 0xFFFF by omega), hfirst, hsecond, hthird]

theorem encodeChar_four {b x y z : UInt8} {n : Nat} (hb : 0xF0 ≤ b.toNat ∧ b.toNat < 0xF5)
    (hx : 0x80 ≤ x.toNat ∧ x.toNat ≤ 0xBF) (hy : 0x80 ≤ y.toNat ∧ y.toNat ≤ 0xBF)
    (hz : 0x80 ≤ z.toNat ∧ z.toNat ≤ 0xBF)
    (hn : n = (((b.toNat - 0xF0) * 64 + (x.toNat - 0x80)) * 64 + (y.toNat - 0x80)) * 64 +
      (z.toNat - 0x80))
    (hlow : 0xFFFF < n) (hhigh : n < 0x110000) :
    String.utf8EncodeChar (Char.ofNat n) = [b, x, y, z] := by
  have hfirst : UInt8.ofNat (n / 262144 % 0x08 + 0xF0) = b := ofNat_eq (by omega)
  have hsecond : UInt8.ofNat (n / 4096 % 0x40 + 0x80) = x := ofNat_eq (by omega)
  have hthird : UInt8.ofNat (n / 64 % 0x40 + 0x80) = y := ofNat_eq (by omega)
  have hfourth : UInt8.ofNat (n % 0x40 + 0x80) = z := ofNat_eq (by omega)
  rw [String.utf8EncodeChar, val_ofNat (Or.inr ⟨by omega, hhigh⟩)]
  simp only [if_neg (show ¬ n ≤ 0x7F by omega), if_neg (show ¬ n ≤ 0x7FF by omega),
    if_neg (show ¬ n ≤ 0xFFFF by omega), hfirst, hsecond, hthird, hfourth]

/-! ## Lead bytes -/

/-- The continuation bytes that a reader inside a character waits for. -/
def State.Completes : Nat → UInt8 → UInt8 → Bytes → Prop
  | 0, low, high, bs => ∃ x, bs = [x] ∧ low ≤ x ∧ x ≤ high
  | missing + 1, low, high, bs =>
    ∃ x rest, bs = x :: rest ∧ low ≤ x ∧ x ≤ high ∧ Completes missing 0x80 0xBF rest

/-- The lead byte `b` opens the characters that the reader goes on to read. -/
def State.Opens (b : UInt8) (missing : Nat) (low high : UInt8) (bits : Nat) : Prop :=
  0x80 ≤ low.toNat ∧ ∀ bs, Completes missing low high bs →
    String.utf8EncodeChar (Char.ofNat (assemble bits bs)) = b :: bs

theorem State.opens_two {b : UInt8} (hb : 0xC2 ≤ b.toNat ∧ b.toNat < 0xE0) :
    Opens b 0 0x80 0xBF (b.toNat - 0xC0) := by
  refine ⟨Nat.le_refl _, ?_⟩
  rintro bs ⟨x, rfl, hlow, hhigh⟩
  exact encodeChar_two hb ⟨hlow, hhigh⟩ rfl

theorem State.opens_three {b low high : UInt8} {bits : Nat}
    (hb : 0xE0 ≤ b.toNat ∧ b.toNat < 0xF0) (hbits : bits = b.toNat - 0xE0)
    (hlow : 0x80 ≤ low.toNat) (hhigh : high.toNat ≤ 0xBF)
    (hleast : 0x20 ≤ bits * 64 + (low.toNat - 0x80))
    (hvalid : bits * 64 + (high.toNat - 0x80) < 0x360 ∨
      0x37F < bits * 64 + (low.toNat - 0x80)) : Opens b 1 low high bits := by
  refine ⟨hlow, ?_⟩
  rintro bs ⟨x, rest, rfl, hx, hx', y, rfl, hy, hy'⟩
  have hx : low.toNat ≤ x.toNat := hx
  have hx' : x.toNat ≤ high.toNat := hx'
  have hy : 0x80 ≤ y.toNat := hy
  have hy' : y.toNat ≤ 0xBF := hy'
  simp only [assemble, List.foldl_cons, List.foldl_nil]
  exact encodeChar_three hb (by omega) (by omega) (by rw [hbits]) (by omega) (by omega)

theorem State.opens_four {b low high : UInt8} {bits : Nat}
    (hb : 0xF0 ≤ b.toNat ∧ b.toNat < 0xF5) (hbits : bits = b.toNat - 0xF0)
    (hlow : 0x80 ≤ low.toNat) (hhigh : high.toNat ≤ 0xBF)
    (hleast : 0x10 ≤ bits * 64 + (low.toNat - 0x80))
    (hmost : bits * 64 + (high.toNat - 0x80) < 0x110) : Opens b 2 low high bits := by
  refine ⟨hlow, ?_⟩
  rintro bs ⟨x, rest, rfl, hx, hx', y, rest', rfl, hy, hy', z, rfl, hz, hz'⟩
  have hx : low.toNat ≤ x.toNat := hx
  have hx' : x.toNat ≤ high.toNat := hx'
  have hy : 0x80 ≤ y.toNat := hy
  have hy' : y.toNat ≤ 0xBF := hy'
  have hz : 0x80 ≤ z.toNat := hz
  have hz' : z.toNat ≤ 0xBF := hz'
  simp only [assemble, List.foldl_cons, List.foldl_nil]
  exact encodeChar_four hb (by omega) (by omega) (by omega) (by rw [hbits]) (by omega) (by omega)

/-- What a byte is before a character: one, or none, or the first of a longer one. -/
inductive State.Leads (b : UInt8) : List (Option Char) × State → Prop where
  | ascii (h : b.toNat < 0x80) : Leads b ([some (Char.ofNat b.toNat)], .start)
  | invalid (h : 0x80 ≤ b.toNat) : Leads b ([none], .start)
  | opens {missing : Nat} {low high : UInt8} {bits : Nat} (h : 0x80 ≤ b.toNat)
    (ho : Opens b missing low high bits) : Leads b ([], .inside missing low high bits)

theorem State.leads_lead (b : UInt8) : Leads b (lead b) := by
  have hbound := b.toNat_lt
  unfold lead
  by_cases h₁ : b.toNat < 0x80
  · rw [if_pos (show b < 0x80 from h₁)]
    exact .ascii h₁
  rw [if_neg (show ¬ b < 0x80 from h₁)]
  by_cases h₂ : b.toNat < 0xC2
  · rw [if_pos (show b < 0xC2 from h₂)]
    exact .invalid (by omega)
  rw [if_neg (show ¬ b < 0xC2 from h₂)]
  by_cases h₃ : b.toNat < 0xE0
  · rw [if_pos (show b < 0xE0 from h₃)]
    exact .opens (by omega) (opens_two (by omega))
  rw [if_neg (show ¬ b < 0xE0 from h₃)]
  by_cases h₄ : b.toNat = 0xE0
  · rw [if_pos (show b = 0xE0 from UInt8.toNat_inj.mp h₄)]
    exact .opens (by omega) (opens_three (by omega) (by omega) (by decide) (by decide) (by decide)
      (by decide))
  rw [if_neg (show ¬ b = 0xE0 from mt (congrArg UInt8.toNat) h₄)]
  by_cases h₅ : b.toNat = 0xED
  · rw [if_pos (show b = 0xED from UInt8.toNat_inj.mp h₅)]
    exact .opens (by omega) (opens_three (by omega) (by omega) (by decide) (by decide) (by decide)
      (by decide))
  rw [if_neg (show ¬ b = 0xED from mt (congrArg UInt8.toNat) h₅)]
  by_cases h₆ : b.toNat < 0xF0
  · rw [if_pos (show b < 0xF0 from h₆)]
    refine .opens (by omega) (opens_three (by omega) rfl (by decide) (by decide) ?_ ?_)
    · show 0x20 ≤ (b.toNat - 0xE0) * 64 + 0
      omega
    · show (b.toNat - 0xE0) * 64 + 0x3F < 0x360 ∨ 0x37F < (b.toNat - 0xE0) * 64 + 0
      omega
  rw [if_neg (show ¬ b < 0xF0 from h₆)]
  by_cases h₇ : b.toNat = 0xF0
  · rw [if_pos (show b = 0xF0 from UInt8.toNat_inj.mp h₇)]
    exact .opens (by omega) (opens_four (by omega) (by omega) (by decide) (by decide) (by decide)
      (by decide))
  rw [if_neg (show ¬ b = 0xF0 from mt (congrArg UInt8.toNat) h₇)]
  by_cases h₈ : b.toNat < 0xF4
  · rw [if_pos (show b < 0xF4 from h₈)]
    refine .opens (by omega) (opens_four (by omega) rfl (by decide) (by decide) ?_ ?_)
    · show 0x10 ≤ (b.toNat - 0xF0) * 64 + 0
      omega
    · show (b.toNat - 0xF0) * 64 + 0x3F < 0x110
      omega
  rw [if_neg (show ¬ b < 0xF4 from h₈)]
  by_cases h₉ : b.toNat = 0xF4
  · rw [if_pos (show b = 0xF4 from UInt8.toNat_inj.mp h₉)]
    exact .opens (by omega) (opens_four (by omega) (by omega) (by decide) (by decide) (by decide)
      (by decide))
  rw [if_neg (show ¬ b = 0xF4 from mt (congrArg UInt8.toNat) h₉)]
  exact .invalid (by omega)

/-! ## Parts -/

theorem State.pieces_start_cons (b : UInt8) (bs : Bytes) :
    start.pieces (b :: bs) = (lead b).1 ++ (lead b).2.pieces bs := by
  rw [pieces]
  rfl

/-- Inside a character, bytes up to a point complete it, or are no part of one. -/
theorem State.exists_part_inside :
    ∀ (bs : Bytes) (missing : Nat) (low high : UInt8) (bits : Nat), 0x80 ≤ low.toNat →
      ∃ part rest, bs = part ++ rest ∧ (∀ x ∈ part, 0x80 ≤ x.toNat) ∧
        ((Completes missing low high part ∧
          (inside missing low high bits).pieces bs =
            some (Char.ofNat (assemble bits part)) :: start.pieces rest) ∨
        (inside missing low high bits).pieces bs = none :: start.pieces rest)
  | [], _, _, _, _, _ => ⟨[], [], rfl, by simp, Or.inr rfl⟩
  | b :: bs, missing, low, high, bits, hlow => by
    by_cases hb : low ≤ b ∧ b ≤ high
    · have hge : 0x80 ≤ b.toNat := Nat.le_trans hlow hb.1
      cases missing with
      | zero =>
        refine ⟨[b], bs, rfl, by simpa using hge, Or.inl ⟨⟨b, rfl, hb⟩, ?_⟩⟩
        simp only [pieces, step, if_pos hb]
        rfl
      | succ missing =>
        have hstep : (inside (missing + 1) low high bits).pieces (b :: bs) =
            (inside missing 0x80 0xBF (bits * 64 + (b.toNat - 0x80))).pieces bs := by
          rw [pieces, step, if_pos hb]
          rfl
        obtain ⟨part, rest, rfl, hpart, h⟩ := exists_part_inside bs missing 0x80 0xBF
          (bits * 64 + (b.toNat - 0x80)) (Nat.le_refl _)
        refine ⟨b :: part, rest, rfl, by simpa using ⟨hge, hpart⟩, ?_⟩
        rw [hstep]
        rcases h with ⟨hcompletes, h⟩ | h
        · refine Or.inl ⟨⟨b, part, rfl, hb.1, hb.2, hcompletes⟩, ?_⟩
          rw [h, assemble, assemble, List.foldl_cons]
        · exact Or.inr h
    · -- the byte is looked at afresh
      refine ⟨[], b :: bs, rfl, by simp, Or.inr ?_⟩
      rw [pieces_start_cons, pieces, step, if_neg hb]
      rfl

/-- Bytes open with the written form of a character, or with some that are none. -/
theorem exists_part (b : UInt8) (bs : Bytes) : ∃ part rest, b :: bs = part ++ rest ∧
    part ≠ [] ∧
    ((∃ c, part = String.utf8EncodeChar c ∧ pieces (b :: bs) = some c :: pieces rest) ∨
      ((∀ x ∈ part, 0x80 ≤ x.toNat) ∧ pieces (b :: bs) = none :: pieces rest)) := by
  have hstart := State.pieces_start_cons b bs
  have hleads := State.leads_lead b
  generalize State.lead b = r at hstart hleads
  cases hleads with
  | ascii hb =>
    exact ⟨[b], bs, rfl, by simp, Or.inl ⟨_, (encodeChar_one hb).symm, hstart⟩⟩
  | invalid hb => exact ⟨[b], bs, rfl, by simp, Or.inr ⟨by simpa using hb, hstart⟩⟩
  | opens hb ho =>
    obtain ⟨hlow, hopens⟩ := ho
    obtain ⟨part, rest, rfl, hpart, h⟩ := State.exists_part_inside bs _ _ _ _ hlow
    refine ⟨b :: part, rest, rfl, by simp, ?_⟩
    rcases h with ⟨hcompletes, h⟩ | h
    · exact Or.inl ⟨_, (hopens part hcompletes).symm, hstart.trans h⟩
    · exact Or.inr ⟨by simpa using ⟨hb, hpart⟩, hstart.trans h⟩

/-- What holds of the pieces of all bytes, by the parts that they fall into. -/
theorem pieces_induction {P : Bytes → List (Option Char) → Prop} (nil : P [] [])
    (char : ∀ c rest, P rest (pieces rest) →
      P (String.utf8EncodeChar c ++ rest) (some c :: pieces rest))
    (invalid : ∀ part rest, (∀ x ∈ part, 0x80 ≤ x.toNat) → P rest (pieces rest) →
      P (part ++ rest) (none :: pieces rest)) (bs : Bytes) : P bs (pieces bs) := by
  induction h : bs.length using Nat.strongRecOn generalizing bs with
  | ind n ih =>
    cases bs with
    | nil => exact nil
    | cons b bs =>
      obtain ⟨part, rest, hbs, hne, hpart⟩ := exists_part b bs
      have hlength := congrArg List.length hbs
      have hpos := List.length_pos_iff.mpr hne
      rw [List.length_append] at hlength
      have hrest := ih rest.length (by omega) rest rfl
      rcases hpart with ⟨c, rfl, hp⟩ | ⟨hpart, hp⟩
      · rw [hp, hbs]
        exact char c rest hrest
      · rw [hp, hbs]
        exact invalid part rest hpart hrest

/-! ## Valid text is written as it was read -/

/-- Without an invalid part, the bytes are the written forms of the characters. -/
theorem flatMap_encode_of_pieces (bs : Bytes) :
    ∀ cs : List Char, pieces bs = cs.map some → cs.flatMap String.utf8EncodeChar = bs := by
  refine pieces_induction (P := fun bs ps =>
    ∀ cs : List Char, ps = cs.map some → cs.flatMap String.utf8EncodeChar = bs) ?_ ?_ ?_ bs
  · rintro (_ | ⟨c, cs⟩) h
    · rfl
    · simp at h
  · rintro c rest ih (_ | ⟨c', cs⟩) h
    · simp at h
    · obtain ⟨hc, hcs⟩ := List.cons.inj h
      obtain rfl := Option.some.inj hc
      rw [List.flatMap_cons, ih cs hcs]
  · rintro part rest - - (_ | ⟨c, cs⟩) h
    · simp at h
    · exact nomatch (List.cons.inj h).1

theorem flatMap_encode_of_decode? {bs : Bytes} {s : String} (h : decode? bs = some s) :
    s.toList.flatMap String.utf8EncodeChar = bs :=
  flatMap_encode_of_pieces bs s.toList (pieces_of_decode? h)

/-- Valid bytes are determined by their text. -/
theorem lossy_inj {as bs : Bytes} (ha : (decode? as).isSome = true)
    (hb : (decode? bs).isSome = true) (h : lossy as = lossy bs) : as = bs := by
  obtain ⟨s, hs⟩ := Option.isSome_iff_exists.mp ha
  obtain ⟨t, ht⟩ := Option.isSome_iff_exists.mp hb
  rw [lossy_of_decode? hs, lossy_of_decode? ht] at h
  rw [← flatMap_encode_of_decode? hs, ← flatMap_encode_of_decode? ht, h]

/-! ## ASCII characters -/

/-- A byte below `0x80` is the written form of its own character and part of no other. -/
theorem mem_encodeChar_iff {b : UInt8} (hb : b.toNat < 0x80) {c : Char} :
    b ∈ String.utf8EncodeChar c ↔ c = Char.ofNat b.toNat := by
  constructor
  · intro h
    rw [String.utf8EncodeChar] at h
    split at h
    next hc =>
      have hnat : b.toNat = c.toNat := by
        rw [List.mem_singleton.mp h, UInt8.toNat_ofNat']
        exact Nat.mod_eq_of_lt (by omega)
      rw [hnat, Char.ofNat_toNat]
    next =>
      -- the bytes of a longer character are all at least `0x80`
      exfalso
      split at h
      · simp only [List.mem_cons, List.not_mem_nil, or_false, ← UInt8.toNat_inj,
          UInt8.toNat_ofNat'] at h
        omega
      split at h
      · simp only [List.mem_cons, List.not_mem_nil, or_false, ← UInt8.toNat_inj,
          UInt8.toNat_ofNat'] at h
        omega
      · simp only [List.mem_cons, List.not_mem_nil, or_false, ← UInt8.toNat_inj,
          UInt8.toNat_ofNat'] at h
        omega
  · rintro rfl
    rw [encodeChar_one hb]
    exact List.mem_singleton_self b

/-- An ASCII character stands in a text exactly if its byte stands in the bytes. -/
theorem mem_lossy_iff {b : UInt8} (hb : b.toNat < 0x80) (bs : Bytes) :
    Char.ofNat b.toNat ∈ (lossy bs).toList ↔ b ∈ bs := by
  have hreplacement : Char.ofNat b.toNat ≠ replacement := by
    intro h
    have hval := val_ofNat (n := b.toNat) (Or.inl (by omega))
    rw [h] at hval
    have : replacement.val.toNat = 0xFFFD := rfl
    omega
  rw [lossy, String.toList_ofList]
  refine pieces_induction (P := fun bs ps =>
    Char.ofNat b.toNat ∈ ps.map (fun piece => piece.getD replacement) ↔ b ∈ bs) ?_ ?_ ?_ bs
  · simp
  · intro c rest ih
    rw [List.map_cons, Option.getD_some, List.mem_cons, ih, List.mem_append,
      mem_encodeChar_iff hb, eq_comm]
  · intro part rest hpart ih
    have hnot : b ∉ part := fun hmem => absurd (hpart b hmem) (by omega)
    rw [List.map_cons, Option.getD_none, List.mem_cons, ih, List.mem_append]
    simp [hnot, hreplacement]

end Utf8

end ProxyHeader
