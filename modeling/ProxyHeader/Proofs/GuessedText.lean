import Mathlib.Tactic.Common
import ProxyHeader.Proofs.AddressText
import ProxyHeader.Settings.Environment

/-!
# Addresses among guessed values

The value of a variable is guessed from its text, and where a text is wanted the guess is
written out again: `1.10` becomes `1.1`, and `TRUE` becomes `true`. An address is safe from
this. A text is `Sparse` if it has no colon and few points; an address literal has a colon or
three points, while all that is taken for a boolean or a number has at most one point, both
as it was and as it is written out (`Settings.Variable.guess_text`).

So what is guessed and written out is an address exactly if the text was, and the same one
(`Settings.Variable.ofChars?_text_guess`).
-/

namespace ProxyHeader

/-! ## Texts with few points -/

/-- A text without a colon, and with at most `n` points. -/
structure Sparse (n : Nat) (cs : List Char) : Prop where
  colon : ':' ∉ cs
  points : cs.count '.' ≤ n

namespace Sparse

variable {m n : Nat} {cs cs' : List Char}

theorem mono (h : Sparse m cs) (hle : m ≤ n) : Sparse n cs :=
  ⟨h.colon, Nat.le_trans h.points hle⟩

theorem of_zero (h : Sparse 0 cs) : Sparse n cs :=
  h.mono (Nat.zero_le n)

theorem append (h : Sparse m cs) (h' : Sparse n cs') : Sparse (m + n) (cs ++ cs') where
  colon := by
    rw [List.mem_append, not_or]
    exact ⟨h.colon, h'.colon⟩
  points := by
    rw [List.count_append]
    exact Nat.add_le_add h.points h'.points

theorem zero_iff : Sparse 0 cs ↔ ∀ c ∈ cs, c ≠ '.' ∧ c ≠ ':' := by
  constructor
  · intro h c hc
    refine ⟨?_, ?_⟩
    · rintro rfl
      exact List.count_eq_zero.mp (Nat.le_zero.mp h.points) hc
    · rintro rfl
      exact h.colon hc
  · intro h
    exact ⟨fun hmem => (h _ hmem).2 rfl,
      Nat.le_of_eq (List.count_eq_zero.mpr fun hmem => (h _ hmem).1 rfl)⟩

theorem nil : Sparse 0 [] :=
  zero_iff.mpr nofun

theorem point : Sparse 1 ['.'] :=
  ⟨by decide, by decide⟩

/-- Upper and lower case have the same points and colons. -/
theorem of_map_toLower (h : Sparse 0 (cs.map Char.toLower)) : Sparse 0 cs := by
  refine zero_iff.mpr fun c hc => ?_
  have hlower := zero_iff.mp h c.toLower (List.mem_map_of_mem hc)
  refine ⟨?_, ?_⟩
  · rintro rfl
    exact hlower.1 rfl
  · rintro rfl
    exact hlower.2 rfl

theorem toDigits (n : Nat) : Sparse 0 (Nat.toDigits 10 n) := by
  refine zero_iff.mpr fun c hc => ?_
  have halnum := Digits.isAlphanum_of_mem_toDigits (by decide) (by decide) hc
  refine ⟨?_, ?_⟩
  · rintro rfl
    exact absurd halnum (by decide)
  · rintro rfl
    exact absurd halnum (by decide)

end Sparse

/-- A text is sparse up to a rest of it. -/
def SparseUpTo (n : Nat) (cs rest : List Char) : Prop :=
  ∃ front, cs = front ++ rest ∧ Sparse n front

theorem SparseUpTo.refl (cs : List Char) : SparseUpTo 0 cs cs :=
  ⟨[], rfl, .nil⟩

theorem SparseUpTo.sparse {m n : Nat} {cs rest : List Char} (h : SparseUpTo m cs rest)
    (hrest : Sparse n rest) : Sparse (m + n) cs := by
  obtain ⟨front, rfl, hfront⟩ := h
  exact hfront.append hrest

theorem SparseUpTo.mem {n : Nat} {cs rest : List Char} (h : SparseUpTo n cs rest) {c : Char}
    (hc : c ∈ rest) : c ∈ cs := by
  obtain ⟨front, rfl, -⟩ := h
  exact List.mem_append_right front hc

theorem SparseUpTo.cons {c : Char} (hc : c ≠ '.' ∧ c ≠ ':') {cs rest : List Char}
    (h : SparseUpTo 0 cs rest) : SparseUpTo 0 (c :: cs) rest := by
  obtain ⟨front, rfl, hfront⟩ := h
  refine ⟨c :: front, rfl, Sparse.zero_iff.mpr ?_⟩
  exact List.forall_mem_cons.mpr ⟨hc, Sparse.zero_iff.mp hfront⟩

/-! ## Digits -/

theorem Digits.ne_of_digit? {base d : Nat} {c : Char} (h : digit? base c = some d) :
    c ≠ '.' ∧ c ≠ ':' := by
  have hpoint : digit? base '.' = none := rfl
  have hcolon : digit? base ':' = none := rfl
  refine ⟨?_, ?_⟩
  · rintro rfl
    exact absurd (hpoint.symm.trans h) (Option.some_ne_none d).symm
  · rintro rfl
    exact absurd (hcolon.symm.trans h) (Option.some_ne_none d).symm

theorem Digits.sparseUpTo_span (base : Nat) (cs : List Char) :
    SparseUpTo 0 cs (span base cs).2 := by
  induction cs with
  | nil => exact .refl _
  | cons c cs ih =>
    rw [span]
    split
    next d hd => exact ih.cons (ne_of_digit? hd)
    next => exact .refl _

/-! ## Address literals are not sparse -/

namespace Literal

/-- A number and the point behind it. -/
theorem count_of_octet {cs rest rest' : List Char} {b : UInt8}
    (hoctet : octet cs = some (b, rest)) (hpoint : Scan.after? '.' rest = some rest') :
    rest'.count '.' + 1 ≤ cs.count '.' := by
  obtain ⟨front, hcs, -⟩ := Digits.sparseUpTo_span 10 cs
  rw [← octet_eq_some hoctet, Scan.after?_eq_some_iff.mp hpoint] at hcs
  rw [hcs, List.count_append, List.count_cons_self]
  exact Nat.le_add_left _ _

theorem ipv4_eq_none_of_sparse {cs : List Char} (h : Sparse 2 cs) : ipv4 cs = none := by
  refine Option.eq_none_iff_forall_ne_some.mpr fun r hr => ?_
  simp only [ipv4, Option.bind_eq_bind, Option.bind_eq_some_iff, Prod.exists] at hr
  obtain ⟨a, r₁, ha, s₁, hs₁, b, r₂, hb, s₂, hs₂, c, r₃, hc, s₃, hs₃, -⟩ := hr
  have h₁ := count_of_octet ha hs₁
  have h₂ := count_of_octet hb hs₂
  have h₃ := count_of_octet hc hs₃
  have hpoints := h.points
  omega

theorem after?_colon {cs : List Char} (h : ':' ∉ cs) : Scan.after? ':' cs = none := by
  refine Option.eq_none_iff_forall_ne_some.mpr fun rest hrest => h ?_
  rw [Scan.after?_eq_some_iff.mp hrest]
  exact List.mem_cons_self

/-- Without a colon there is no group after the first. -/
theorem groups_of_no_colon (places : Nat) {cs : List Char} (h : ':' ∉ cs) :
    groups places false cs = ([], false, cs) := by
  cases places with
  | zero => rfl
  | succ places =>
    have hcolon : afterColon false cs = none := after?_colon h
    rw [groups, hcolon]
    simp only [Option.bind_none, ite_self]

theorem group_eq_some {cs rest : List Char} {g : UInt16} (h : group cs = some (g, rest)) :
    rest = (Digits.span 16 cs).2 := by
  rw [group] at h
  grind

theorem ipv6_eq_none_of_sparse {cs : List Char} (h : Sparse 2 cs) : ipv6 cs = none := by
  have hipv4 : (if 7 = 0 then none else (afterColon true cs).bind ipv4) = none :=
    ipv4_eq_none_of_sparse h
  rw [ipv6, groups, hipv4]
  cases hgroup : (afterColon true cs).bind group with
  | none => simp [after?_colon h.colon]
  | some found =>
    obtain ⟨g, rest⟩ := found
    have hgroup' : group cs = some (g, rest) := hgroup
    have hrest : ':' ∉ rest := by
      rw [group_eq_some hgroup']
      exact mt (Digits.sparseUpTo_span 16 cs).mem h.colon
    simp [groups_of_no_colon 7 hrest, after?_colon hrest]

end Literal

/-- A sparse text is no address. -/
theorem IpAddress.ofChars?_eq_none_of_sparse {cs : List Char} (h : Sparse 1 cs) :
    ofChars? cs = none := by
  have h₂ : Sparse 2 cs := h.mono (by decide)
  simp [ofChars?, Literal.ipv4_eq_none_of_sparse h₂, Literal.ipv6_eq_none_of_sparse h₂]

/-! ## Numerals are sparse -/

namespace Numeral

theorem sparseUpTo_sign (cs : List Char) : SparseUpTo 0 cs (sign cs).2 := by
  unfold sign
  split
  · exact (SparseUpTo.refl _).cons (by decide)
  · exact (SparseUpTo.refl _).cons (by decide)
  · exact .refl _

theorem sparse_of_digitsOnly? {cs : List Char} {n : Nat} (h : digitsOnly? cs = some n) :
    Sparse 0 cs := by
  have hspan := Digits.sparseUpTo_span 10 cs
  unfold digitsOnly? at h
  split at h
  next => exact absurd h (Option.some_ne_none n).symm
  next ds heq =>
    rw [heq] at hspan
    exact hspan.sparse .nil
  next => exact absurd h (Option.some_ne_none n).symm

theorem sparse_of_int? {cs : List Char} {n : Int} (h : int? cs = some n) : Sparse 0 cs := by
  rw [int?] at h
  cases hdigits : digitsOnly? (sign cs).2 with
  | none => simp [hdigits] at h
  | some m => exact (sparseUpTo_sign cs).sparse (sparse_of_digitsOnly? hdigits)

theorem sparseUpTo_places (cs : List Char) : SparseUpTo 1 cs (places cs).2 := by
  unfold places
  split
  next cs' =>
    obtain ⟨front, hcs, hfront⟩ := Digits.sparseUpTo_span 10 cs'
    refine ⟨['.'] ++ front, congrArg ('.' :: ·) hcs, ?_⟩
    exact Sparse.point.append hfront
  next => exact ⟨[], rfl, .of_zero .nil⟩

theorem sparse_of_exponent? {cs : List Char} {e : Int} (h : exponent? cs = some e) :
    Sparse 0 cs := by
  cases cs with
  | nil => exact .nil
  | cons c cs =>
    simp only [exponent?] at h
    split at h
    next hc =>
      have hcs : Sparse 0 cs := by
        cases hdigits : digitsOnly? (sign cs).2 with
        | none => simp [hdigits] at h
        | some n => exact (sparseUpTo_sign cs).sparse (sparse_of_digitsOnly? hdigits)
      have hne : c ≠ '.' ∧ c ≠ ':' := by
        obtain rfl | rfl := hc
        · decide
        · decide
      exact ((SparseUpTo.refl cs).cons hne).sparse hcs
    next => exact absurd h (Option.some_ne_none e).symm

theorem sparse_of_named {name : String} {cs : List Char} (h : named name cs = true)
    (hname : Sparse 0 name.toList) : Sparse 0 cs := by
  rw [named, beq_iff_eq] at h
  exact Sparse.of_map_toLower (h ▸ hname)

theorem sparse_of_float? {cs : List Char} {x : Binary64} (h : float? cs = some x) :
    Sparse 1 cs := by
  have hsign := sparseUpTo_sign cs
  suffices hrest : Sparse 1 (sign cs).2 by simpa using hsign.sparse hrest
  unfold float? at h
  dsimp only at h
  split at h
  next hinf =>
    rw [Bool.or_eq_true] at hinf
    obtain hinf | hinf := hinf
    · exact (sparse_of_named hinf ⟨by decide, by decide⟩).of_zero
    · exact (sparse_of_named hinf ⟨by decide, by decide⟩).of_zero
  next =>
    split at h
    next hnan => exact (sparse_of_named hnan ⟨by decide, by decide⟩).of_zero
    next =>
      split at h
      next => exact absurd h (Option.some_ne_none x).symm
      next =>
        obtain ⟨e, he, -⟩ := Option.map_eq_some_iff.mp h
        have hexponent := sparse_of_exponent? he
        have hplaces := (sparseUpTo_places _).sparse hexponent
        simpa using (Digits.sparseUpTo_span 10 (sign cs).2).sparse hplaces

end Numeral

/-! ## What is written out is sparse -/

namespace Binary64

theorem sparse_positional (c : Nat) (grid : Int) : Sparse 1 (positional c grid) := by
  have hzeros (n : Nat) : Sparse 0 (List.replicate n '0') :=
    Sparse.zero_iff.mpr fun x hx => by
      rw [List.eq_of_mem_replicate hx]
      decide
  rw [positional]
  split
  next => exact ((Sparse.toDigits c).append (hzeros _)).of_zero
  next =>
    have hpadded := (hzeros ((-grid).toNat + 1 - (Nat.toDigits 10 c).length)).append
      (Sparse.toDigits c)
    -- A part of a text without points is one too.
    have hpart {cs : List Char} (hsub : cs ⊆ List.replicate
        ((-grid).toNat + 1 - (Nat.toDigits 10 c).length) '0' ++ Nat.toDigits 10 c) : Sparse 0 cs :=
      Sparse.zero_iff.mpr fun x hx => Sparse.zero_iff.mp hpadded x (hsub hx)
    exact (hpart (List.take_subset _ _)).append (Sparse.point.append (hpart (List.drop_subset _ _)))

theorem sparse_chars (x : Binary64) : Sparse 1 x.chars := by
  cases x with
  | nan => exact ⟨by decide, by decide⟩
  | infinite negative => cases negative <;> exact ⟨by decide, by decide⟩
  | finite negative m exponent =>
    have hdigits : Sparse 1 (if m = 0 then ['0'] else
        positional (shortest m exponent).1 (shortest m exponent).2) := by
      split
      · exact ⟨by decide, by decide⟩
      · exact sparse_positional _ _
    have hminus : Sparse 0 ['-'] := ⟨by decide, by decide⟩
    cases negative with
    | false => exact hdigits
    | true => exact (hminus.append hdigits).mono (by decide)

end Binary64

namespace Settings

theorem Value.sparse_intText (n : Int) : Sparse 0 (intText n).toList := by
  have hdecimal : Sparse 0 (Digits.decimal n.natAbs).toList := by
    rw [Digits.decimal, String.toList_ofList]
    exact Sparse.toDigits _
  rw [intText]
  split
  · rw [String.toList_append]
    exact (show Sparse 0 "-".toList from ⟨by decide, by decide⟩).append hdecimal
  · exact hdecimal

theorem Value.sparse_boolText (b : Bool) : Sparse 0 (boolText b).toList := by
  cases b <;> exact ⟨by decide, by decide⟩

namespace Variable

theorem sparse_of_bool? {cs : List Char} {b : Bool} (h : bool? cs = some b) : Sparse 0 cs := by
  unfold bool? at h
  dsimp only at h
  refine Sparse.of_map_toLower ?_
  split at h
  next htrue =>
    rw [beq_iff_eq.mp htrue]
    exact ⟨by decide, by decide⟩
  next =>
    split at h
    next hfalse =>
      rw [beq_iff_eq.mp hfalse]
      exact ⟨by decide, by decide⟩
    next => exact absurd h (Option.some_ne_none b).symm

/-- A guess has a text. It is the text that was guessed from, or both have few points. -/
theorem guess_text (s : String) : ∃ t, (guess s).text? = some t ∧
    (t = s ∨ Sparse 1 t.toList ∧ Sparse 1 s.toList) := by
  unfold guess
  dsimp only
  split
  next b hbool =>
    exact ⟨_, rfl, .inr ⟨(Value.sparse_boolText b).of_zero, (sparse_of_bool? hbool).of_zero⟩⟩
  next =>
    split
    next n hint =>
      exact ⟨_, rfl, .inr ⟨(Value.sparse_intText n).of_zero,
        (Numeral.sparse_of_int? hint).of_zero⟩⟩
    next =>
      split
      next x hfloat =>
        refine ⟨_, rfl, .inr ⟨?_, Numeral.sparse_of_float? hfloat⟩⟩
        rw [Binary64.text, String.toList_ofList]
        exact x.sparse_chars
      next => exact ⟨_, rfl, .inl rfl⟩

/-- The text of a guess is an address exactly if the text guessed from is, and the same one;
an address is kept as it is written. -/
theorem ofChars?_text_guess {s t : String} (h : (guess s).text? = some t) :
    IpAddress.ofChars? t.toList = IpAddress.ofChars? s.toList ∧
      ∀ ip, IpAddress.ofChars? s.toList = some ip → t = s := by
  obtain ⟨t', ht', hcases⟩ := guess_text s
  obtain rfl := Option.some.inj (h.symm.trans ht')
  obtain rfl | ⟨ht, hs⟩ := hcases
  · exact ⟨rfl, fun _ _ => rfl⟩
  · rw [IpAddress.ofChars?_eq_none_of_sparse ht, IpAddress.ofChars?_eq_none_of_sparse hs]
    exact ⟨rfl, nofun⟩

end Variable

end Settings

end ProxyHeader
