import Mathlib.Data.List.Basic
import ProxyHeader.Address.Literal
import ProxyHeader.Address.Text
import ProxyHeader.Proofs.Lines

/-!
# Addresses are read back from their text

The text of an address is a literal for it (`IpAddress.ofChars?_chars`): the groups that
an IPv6 text leaves out are the zero groups that are missing, and the IPv4 address that
it may end in stands for the last two groups. So an address is determined by its text,
and an endpoint by its own (`Endpoint.text_inj`).
-/

namespace ProxyHeader

/-! ## Numbers -/

namespace Digits

/-- Splitting off digits neither adds nor loses a character. -/
theorem length_span (base : Nat) :
    ∀ cs : List Char, (span base cs).1.length + (span base cs).2.length = cs.length
  | [] => rfl
  | c :: cs => by
    have ih := length_span base cs
    rw [span]
    split
    · simp only [List.length_cons]
      omega
    · simp

/-- The digits of a numeral are read off the text that it stands in front of. -/
theorem span_toDigits_append {base : Nat} (hb : 1 < base) (hb' : base ≤ 16) (n : Nat)
    {rest : List Char} (hrest : span base rest = ([], rest)) :
    ∃ d ds, span base (Nat.toDigits base n ++ rest) = (d :: ds, rest) ∧
      value base (d :: ds) = n ∧ (d = 0 → ds = []) ∧
      (d :: ds).length = (Nat.toDigits base n).length := by
  obtain ⟨d, ds, hvalue, hzero, hspan⟩ := span_toDigits hb hb' n
  have h : span base (Nat.toDigits base n ++ rest) = (d :: ds, rest) := by
    simpa only [hrest, List.append_nil] using hspan rest
  refine ⟨d, ds, h, hvalue, hzero, ?_⟩
  have hlength := length_span base (Nat.toDigits base n ++ rest)
  simp only [h, List.length_append] at hlength
  omega

end Digits

namespace Literal

theorem octet_toDigits_append (b : UInt8) {rest : List Char}
    (hrest : Digits.span 10 rest = ([], rest)) :
    octet (Nat.toDigits 10 b.toNat ++ rest) = some (b, rest) := by
  obtain ⟨d, ds, hspan, hvalue, hzero, hlength⟩ :=
    Digits.span_toDigits_append (by decide) (by decide) b.toNat hrest
  have hb := b.toNat_lt
  have hthree : (Nat.toDigits 10 b.toNat).length ≤ 3 :=
    (Nat.length_toDigits_le_iff (by decide) (by decide)).mpr (by omega)
  have hlead : ¬ (1 < (d :: ds).length ∧ (d :: ds).head? = some 0) := by
    rintro ⟨hlong, hhead⟩
    rw [hzero (Option.some.inj hhead)] at hlong
    exact absurd hlong (Nat.lt_irrefl 1)
  rw [octet, hspan]
  dsimp only
  rw [if_neg (by rw [List.length_cons] at hlength ⊢; omega), if_neg hlead, hvalue,
    if_neg (by omega), UInt8.ofNat_toNat]

theorem group_toDigits_append (g : UInt16) {rest : List Char}
    (hrest : Digits.span 16 rest = ([], rest)) :
    group (Nat.toDigits 16 g.toNat ++ rest) = some (g, rest) := by
  obtain ⟨d, ds, hspan, hvalue, -, hlength⟩ :=
    Digits.span_toDigits_append (by decide) (by decide) g.toNat hrest
  have hg := g.toNat_lt
  have hfour : (Nat.toDigits 16 g.toNat).length ≤ 4 :=
    (Nat.length_toDigits_le_iff (by decide) (by decide)).mpr (by omega)
  rw [group, hspan]
  dsimp only
  rw [if_neg (by rw [List.length_cons] at hlength ⊢; omega), hvalue, UInt16.ofNat_toNat]

end Literal

/-! ## IPv4 addresses -/

theorem Ipv4.chars_eq (a b c d : UInt8) : chars ⟨#v[a, b, c, d]⟩ =
    Nat.toDigits 10 a.toNat ++ '.' :: (Nat.toDigits 10 b.toNat ++ '.' ::
      (Nat.toDigits 10 c.toNat ++ '.' :: Nat.toDigits 10 d.toNat)) := by
  simp [chars]

theorem Ipv4.exists_eq (a : Ipv4) : ∃ b₁ b₂ b₃ b₄, a = ⟨#v[b₁, b₂, b₃, b₄]⟩ := by
  obtain ⟨⟨⟨l⟩, hl⟩⟩ := a
  match l, hl with
  | [b₁, b₂, b₃, b₄], _ => exact ⟨b₁, b₂, b₃, b₄, rfl⟩

theorem Literal.ipv4_chars_append (a : Ipv4) {rest : List Char}
    (hrest : Digits.span 10 rest = ([], rest)) : ipv4 (a.chars ++ rest) = some (a, rest) := by
  obtain ⟨b₁, b₂, b₃, b₄, rfl⟩ := a.exists_eq
  have hdot : ∀ cs, Digits.span 10 ('.' :: cs) = ([], '.' :: cs) := fun cs => rfl
  have hafter : ∀ cs, Scan.after? '.' ('.' :: cs) = some cs := fun cs => rfl
  rw [Ipv4.chars_eq]
  simp only [ipv4, List.append_assoc, List.cons_append, octet_toDigits_append _ (hdot _),
    octet_toDigits_append _ hrest, hafter, Option.bind_eq_bind, Option.bind_some, Option.pure_def]

theorem Literal.ipv4_chars (a : Ipv4) : ipv4 a.chars = some (a, []) := by
  have h := ipv4_chars_append a (show Digits.span 10 [] = ([], []) from rfl)
  rwa [List.append_nil] at h

/-! ## Groups -/

namespace Ipv6

/-- Groups in hexadecimal, each behind a colon but the first of a text. -/
def groupsText (first : Bool) : List UInt16 → List Char
  | [] => []
  | g :: gs => (if first then [] else [':']) ++ (Nat.toDigits 16 g.toNat ++ groupsText false gs)

theorem colonJoin_eq (gs : List UInt16) : colonJoin gs = groupsText true gs := by
  have htail : ∀ gs : List UInt16,
      (gs.map fun g => Nat.toDigits 16 g.toNat).flatMap (':' :: ·) = groupsText false gs := by
    intro gs
    induction gs with
    | nil => rfl
    | cons g gs ih =>
      rw [List.map_cons, List.flatMap_cons, ih]
      rfl
  cases gs with
  | nil => rfl
  | cons g gs =>
    rw [colonJoin, List.map_cons, intercalate_singleton_cons, htail]
    rfl

end Ipv6

namespace Literal

/-- What may follow a group: nothing, or a colon. -/
def AtColon (rest : List Char) : Prop :=
  rest = [] ∨ ∃ cs, rest = ':' :: cs

theorem AtColon.span {rest : List Char} (h : AtColon rest) {base : Nat} :
    Digits.span base rest = ([], rest) := by
  rcases h with rfl | ⟨cs, rfl⟩
  · rfl
  · rfl

theorem octet_eq_some {cs rest : List Char} {b : UInt8} (h : octet cs = some (b, rest)) :
    rest = (Digits.span 10 cs).2 := by
  rw [octet] at h
  grind

/-- Where a group stands no IPv4 address does: no point follows. -/
theorem ipv4_eq_none {w rest : List Char} (hw : '.' ∉ w) (hrest : AtColon rest) :
    ipv4 (w ++ rest) = none := by
  have hpoint : Scan.after? '.' (Digits.span 10 (w ++ rest)).2 = none := by
    induction w with
    | nil =>
      rcases hrest with rfl | ⟨cs, rfl⟩
      · rfl
      · rfl
    | cons c w ih =>
      rw [List.mem_cons, not_or] at hw
      rw [List.cons_append, Digits.span]
      split
      · exact ih hw.2
      · exact if_neg (Ne.symm hw.1)
  rw [ipv4]
  cases ho : octet (w ++ rest) with
  | none => rfl
  | some p =>
    obtain ⟨b, rest'⟩ := p
    obtain rfl := octet_eq_some ho
    simp only [Option.bind_eq_bind, Option.bind_some, hpoint, Option.bind_none]

theorem point_not_mem_toDigits (n : Nat) : '.' ∉ Nat.toDigits 16 n := fun h =>
  absurd (Digits.isAlphanum_of_mem_toDigits (by decide) (by decide) h) (by decide)

/-- What ends a run of groups: nothing, or two colons. -/
def AtEnd (rest : List Char) : Prop :=
  rest = [] ∨ ∃ cs, rest = ':' :: ':' :: cs

theorem AtEnd.atColon {rest : List Char} (h : AtEnd rest) : AtColon rest :=
  h.imp id fun ⟨cs, hcs⟩ => ⟨':' :: cs, hcs⟩

theorem groups_of_atEnd (places : Nat) (first : Bool) {rest : List Char} (h : AtEnd rest) :
    groups places first rest = ([], false, rest) := by
  cases places with
  | zero => rfl
  | succ places =>
    have hnone : (afterColon first rest).bind ipv4 = none ∧
        (afterColon first rest).bind group = none := by
      rcases h with rfl | ⟨cs, rfl⟩
      · cases first <;> exact ⟨rfl, rfl⟩
      · cases first <;> exact ⟨rfl, rfl⟩
    rw [groups, hnone.1, hnone.2, ite_self]

/-- One group is read before the others. -/
theorem groups_cons (places : Nat) (first : Bool) (g : UInt16) {rest : List Char}
    (h : AtColon rest) :
    groups (places + 1) first
        ((if first then [] else [':']) ++ (Nat.toDigits 16 g.toNat ++ rest)) =
      (g :: (groups places false rest).1, (groups places false rest).2) := by
  have hafter : afterColon first
      ((if first then [] else [':']) ++ (Nat.toDigits 16 g.toNat ++ rest)) =
        some (Nat.toDigits 16 g.toNat ++ rest) := by
    cases first <;> rfl
  rw [groups, hafter, Option.bind_some, Option.bind_some,
    ipv4_eq_none (point_not_mem_toDigits g.toNat) h, ite_self,
    group_toDigits_append g h.span]

theorem atColon_groupsText_append (gs : List UInt16) {rest : List Char} (h : AtColon rest) :
    AtColon (Ipv6.groupsText false gs ++ rest) := by
  cases gs with
  | nil => exact h
  | cons g gs => exact Or.inr ⟨_, rfl⟩

/-- Groups are read as they are written, where there are places for them. -/
theorem groups_groupsText_append {rest : List Char} (h : AtEnd rest) :
    ∀ (gs : List UInt16) (places : Nat) (first : Bool), gs.length ≤ places →
      groups places first (Ipv6.groupsText first gs ++ rest) = (gs, false, rest)
  | [], places, first, _ => groups_of_atEnd places first h
  | g :: gs, 0, _, hlen => absurd hlen (by simp)
  | g :: gs, places + 1, first, hlen => by
    have hlen : gs.length ≤ places := Nat.le_of_succ_le_succ hlen
    rw [Ipv6.groupsText, List.append_assoc, List.append_assoc,
      groups_cons places first g (atColon_groupsText_append gs h.atColon),
      groups_groupsText_append h gs places false hlen]

/-- An IPv4 address is read as the last two groups. -/
theorem groups_ipv4 (places : Nat) (a : Ipv4) :
    groups (places + 2) false (':' :: a.chars) = (Ipv6.pairUp a.octets.toList, true, []) := by
  have hread : (afterColon false (':' :: a.chars)).bind ipv4 = some (a, []) := ipv4_chars a
  rw [groups, if_neg (Nat.succ_ne_zero places), hread]

end Literal

/-! ## IPv6 addresses -/

namespace Ipv6

theorem exists_leadingZeros : ∀ gs : List UInt16,
    ∃ post, gs = List.replicate (leadingZeros gs) 0 ++ post
  | [] => ⟨[], rfl⟩
  | g :: gs => by
    rw [leadingZeros]
    split
    next h =>
      obtain ⟨post, hpost⟩ := exists_leadingZeros gs
      refine ⟨post, ?_⟩
      rw [List.replicate_succ, List.cons_append, ← hpost, h]
    next => exact ⟨g :: gs, rfl⟩

/-- The groups of a run are zero. -/
theorem exists_longestZeroRun : ∀ gs : List UInt16, ∃ pre post,
    gs = pre ++ (List.replicate (longestZeroRun gs).2 0 ++ post) ∧
      pre.length = (longestZeroRun gs).1
  | [] => ⟨[], [], rfl, rfl⟩
  | g :: gs => by
    rw [longestZeroRun]
    dsimp only
    split
    next =>
      obtain ⟨post, hpost⟩ := exists_leadingZeros (g :: gs)
      exact ⟨[], post, hpost, rfl⟩
    next =>
      obtain ⟨pre, post, hgs, hpre⟩ := exists_longestZeroRun gs
      exact ⟨g :: pre, post, congrArg (g :: ·) hgs, congrArg (· + 1) hpre⟩

theorem length_groups (a : Ipv6) : a.groups.length = 8 := by
  obtain ⟨⟨⟨l⟩, hl⟩⟩ := a
  match l, hl with
  | [_, _, _, _, _, _, _, _, _, _, _, _, _, _, _, _], _ => rfl

theorem drop_groups (a : Ipv6) : a.groups.drop 6 = pairUp (a.octets.toList.drop 12) := by
  obtain ⟨⟨⟨l⟩, hl⟩⟩ := a
  match l, hl with
  | [_, _, _, _, _, _, _, _, _, _, _, _, _, _, _, _], _ => rfl

/-- The groups of an address that stands for an IPv4 address. -/
theorem groups_of_mapped? {a : Ipv6} {v : Ipv4} (h : a.mapped? = some v) :
    a.groups = List.replicate 5 0 ++ (0xFFFF :: pairUp v.octets.toList) := by
  rw [mapped?] at h
  split at h
  next htake =>
    obtain rfl := Option.some.inj h
    have hoctets : #v[a.octets[12], a.octets[13], a.octets[14], a.octets[15]].toList =
        a.octets.toList.drop 12 := by
      simp [List.drop_eq_getElem_cons]
    rw [hoctets, ← drop_groups]
    nth_rewrite 1 [← List.take_append_drop 6 a.groups]
    rw [htake]
    rfl
  next => simp at h

end Ipv6

namespace Literal

/-- Groups with a run of zero groups left out. -/
theorem ipv6_run {pre post : List UInt16} {zeros : Nat} {a : Ipv6} (hzeros : 2 ≤ zeros)
    (ha : a.groups = pre ++ (List.replicate zeros 0 ++ post)) :
    ipv6 (Ipv6.colonJoin pre ++ [':', ':'] ++ Ipv6.colonJoin post) = some (a, []) := by
  have hlength := a.length_groups
  rw [ha, List.length_append, List.length_append, List.length_replicate] at hlength
  have hhead := groups_groupsText_append (Or.inr ⟨Ipv6.colonJoin post, rfl⟩) pre 8 true (by omega)
  have htail := groups_groupsText_append (Or.inl rfl) post (7 - pre.length) true (by omega)
  have hzeros' : 8 - pre.length - post.length = zeros := by omega
  have hafter : ∀ cs, Scan.after? ':' (':' :: cs) = some cs := fun cs => rfl
  rw [List.append_nil, ← Ipv6.colonJoin_eq] at htail
  rw [← Ipv6.colonJoin_eq] at hhead
  rw [List.append_assoc, ipv6]
  simp only [List.cons_append, List.nil_append, hhead, if_neg (show pre.length ≠ 8 by omega),
    Option.bind_eq_bind, hafter, Option.bind_some, htail, hzeros', Option.pure_def,
    Bool.false_eq_true, if_false]
  rw [List.append_assoc, ← ha, Ipv6.ofGroups?_groups, Option.bind_some]

theorem ipv6_full (a : Ipv6) : ipv6 (Ipv6.colonJoin a.groups) = some (a, []) := by
  have hread := groups_groupsText_append (Or.inl rfl) a.groups 8 true
    (Nat.le_of_eq a.length_groups)
  rw [List.append_nil, ← Ipv6.colonJoin_eq] at hread
  rw [ipv6]
  simp only [hread, a.length_groups, if_pos, Ipv6.ofGroups?_groups, Option.bind_eq_bind,
    Option.bind_some, Option.pure_def]

theorem ipv6_mapped {a : Ipv6} {v : Ipv4} (ha : a.mapped? = some v) :
    ipv6 ("::ffff:".toList ++ v.chars) = some (a, []) := by
  have htext : "::ffff:".toList ++ v.chars =
      ':' :: ':' :: (Nat.toDigits 16 (0xFFFF : UInt16).toNat ++ ':' :: v.chars) := rfl
  have hhead := groups_of_atEnd 8 true
    (Or.inr ⟨Nat.toDigits 16 (0xFFFF : UInt16).toNat ++ ':' :: v.chars, rfl⟩)
  have htail := groups_cons 6 true 0xFFFF (Or.inr ⟨v.chars, rfl⟩)
  have hafter : ∀ cs, Scan.after? ':' (':' :: cs) = some cs := fun cs => rfl
  rw [groups_ipv4 4 v, if_pos rfl, List.nil_append] at htail
  rw [htext, ipv6]
  have hfive : 8 - (0xFFFF :: Ipv6.pairUp v.octets.toList).length = 5 := by
    have hlength := a.length_groups
    rw [Ipv6.groups_of_mapped? ha, List.length_append, List.length_replicate] at hlength
    omega
  have hgroups : [] ++ List.replicate 5 0 ++ 0xFFFF :: Ipv6.pairUp v.octets.toList = a.groups :=
    (Ipv6.groups_of_mapped? ha).symm
  simp only [hhead, List.length_nil, Nat.sub_zero, Option.bind_eq_bind, hafter, Option.bind_some,
    htail, Option.pure_def, if_neg (show ¬ 0 = 8 by decide), Bool.false_eq_true, if_false, hfive,
    hgroups, Ipv6.ofGroups?_groups]

/-- An IPv6 address is read back from its text. -/
theorem ipv6_chars (a : Ipv6) : ipv6 a.chars = some (a, []) := by
  rw [Ipv6.chars]
  split
  next v hv => exact ipv6_mapped hv
  next =>
    obtain ⟨pre, post, hgs, hpre⟩ := Ipv6.exists_longestZeroRun a.groups
    generalize Ipv6.longestZeroRun a.groups = run at hgs hpre ⊢
    obtain ⟨start, zeros⟩ := run
    dsimp only at hgs hpre ⊢
    split
    next hzeros =>
      have htake : a.groups.take start = pre := by
        rw [hgs, ← hpre, List.take_left]
      have hdrop : a.groups.drop (start + zeros) = post := by
        rw [hgs, ← hpre, ← List.drop_drop, List.drop_left, List.drop_left' List.length_replicate]
      rw [htake, hdrop]
      exact ipv6_run hzeros hgs
    next => exact ipv6_full a

end Literal

/-! ## Addresses -/

/-- An IPv6 text does not open with an IPv4 address. -/
theorem Literal.ipv4_chars_v6 (a : Ipv6) : ipv4 a.chars = none := by
  have hgroups : ∀ (gs : List UInt16) {rest : List Char}, AtColon rest →
      ipv4 (Ipv6.groupsText true gs ++ rest) = none := by
    intro gs rest hrest
    cases gs with
    | nil => exact ipv4_eq_none List.not_mem_nil hrest
    | cons g gs =>
      rw [Ipv6.groupsText, if_pos rfl, List.nil_append, List.append_assoc]
      exact ipv4_eq_none (point_not_mem_toDigits g.toNat) (atColon_groupsText_append gs hrest)
  rw [Ipv6.chars]
  split
  next v hv => exact hgroups [] (Or.inr ⟨_, rfl⟩)
  next =>
    dsimp only
    split
    next =>
      rw [Ipv6.colonJoin_eq, List.append_assoc]
      exact hgroups _ (Or.inr ⟨_, rfl⟩)
    next =>
      have h := hgroups a.groups (Or.inl rfl)
      rwa [List.append_nil, ← Ipv6.colonJoin_eq] at h

namespace IpAddress

/-- An address is read back from its text. -/
theorem ofChars?_chars (a : IpAddress) : ofChars? a.chars = some a := by
  cases a with
  | v4 a =>
    rw [ofChars?, chars, Literal.ipv4_chars]
    rfl
  | v6 a =>
    rw [ofChars?, chars, Literal.ipv4_chars_v6, Literal.ipv6_chars]
    rfl

/-- An address is determined by its text. -/
theorem text_inj {a b : IpAddress} (h : a.text = b.text) : a = b := by
  have hread := ofChars?_chars a
  rw [String.ofList_injective h, ofChars?_chars] at hread
  exact (Option.some.inj hread).symm

end IpAddress

/-! ## The characters of an address -/

theorem Ipv4.mem_chars {a : Ipv4} {c : Char} (h : c ∈ a.chars) :
    c.isAlphanum = true ∨ c = '.' := by
  have hdigits : ∀ b : UInt8, c ∈ Nat.toDigits 10 b.toNat → c.isAlphanum = true := fun b hb =>
    Digits.isAlphanum_of_mem_toDigits (by decide) (by decide) hb
  obtain ⟨b₁, b₂, b₃, b₄, rfl⟩ := a.exists_eq
  rw [chars_eq] at h
  simp only [List.mem_append, List.mem_cons] at h
  rcases h with h | h | h | h | h | h | h
  · exact Or.inl (hdigits b₁ h)
  · exact Or.inr h
  · exact Or.inl (hdigits b₂ h)
  · exact Or.inr h
  · exact Or.inl (hdigits b₃ h)
  · exact Or.inr h
  · exact Or.inl (hdigits b₄ h)

theorem Ipv6.mem_colonJoin {c : Char} {gs : List UInt16} (h : c ∈ colonJoin gs) :
    c.isAlphanum = true ∨ c = ':' := by
  have htext : ∀ (gs : List UInt16) (first : Bool), c ∈ groupsText first gs →
      c.isAlphanum = true ∨ c = ':' := by
    intro gs
    induction gs with
    | nil => exact fun _ h => absurd h List.not_mem_nil
    | cons g gs ih =>
      intro first h
      rw [groupsText] at h
      rcases List.mem_append.mp h with h | h
      · cases first with
        | true => exact absurd h List.not_mem_nil
        | false => exact Or.inr (List.mem_singleton.mp h)
      rcases List.mem_append.mp h with h | h
      · exact Or.inl (Digits.isAlphanum_of_mem_toDigits (by decide) (by decide) h)
      · exact ih false h
  rw [colonJoin_eq] at h
  exact htext gs true h

theorem Ipv6.mem_chars {a : Ipv6} {c : Char} (h : c ∈ a.chars) :
    c.isAlphanum = true ∨ c = '.' ∨ c = ':' := by
  rw [chars] at h
  split at h
  next v hv =>
    rcases List.mem_append.mp h with h | h
    · have hopening : "::ffff:".toList.all (fun c => c.isAlphanum || c == ':') = true := by
        decide
      have hc := List.all_eq_true.mp hopening c h
      rw [Bool.or_eq_true, beq_iff_eq] at hc
      exact hc.imp id Or.inr
    · exact (Ipv4.mem_chars h).imp id Or.inl
  next =>
    dsimp only at h
    split at h
    next =>
      rcases List.mem_append.mp h with h | h
      · rcases List.mem_append.mp h with h | h
        · exact (mem_colonJoin h).imp id Or.inr
        · exact Or.inr (Or.inr (by simpa using h))
      · exact (mem_colonJoin h).imp id Or.inr
    next => exact (mem_colonJoin h).imp id Or.inr

/-- A character that is no letter, digit, point or colon stands in no address. -/
theorem IpAddress.not_mem_text {c : Char} (hc : c.isAlphanum = false) (hpoint : c ≠ '.')
    (hcolon : c ≠ ':') (a : IpAddress) : c ∉ a.text.toList := by
  rw [text, String.toList_ofList]
  intro h
  cases a with
  | v4 a =>
    rcases Ipv4.mem_chars h with h | h
    · exact Bool.noConfusion (h.symm.trans hc)
    · exact hpoint h
  | v6 a =>
    rcases Ipv6.mem_chars h with h | h | h
    · exact Bool.noConfusion (h.symm.trans hc)
    · exact hpoint h
    · exact hcolon h

/-! ## Endpoints -/

namespace Endpoint

theorem toList_text_v4 (a : Ipv4) (port : UInt16) :
    (text ⟨.v4 a, port⟩).toList = a.chars ++ ':' :: Nat.toDigits 10 port.toNat := by
  simp [text, IpAddress.text, IpAddress.chars, portText, Digits.decimal]

theorem toList_text_v6 (a : Ipv6) (port : UInt16) :
    (text ⟨.v6 a, port⟩).toList =
      '[' :: a.chars ++ ']' :: ':' :: Nat.toDigits 10 port.toNat := by
  simp [text, IpAddress.text, IpAddress.chars, portText, Digits.decimal]

/-- A character that is no digit stands in no port. -/
theorem not_mem_port {c : Char} (hc : c.isAlphanum = false) (port : UInt16) :
    c ∉ Nat.toDigits 10 port.toNat := fun h => Bool.noConfusion
  ((Digits.isAlphanum_of_mem_toDigits (by decide) (by decide) h).symm.trans hc)

/-- No IPv4 endpoint has the text of an IPv6 endpoint, which opens with a bracket. -/
theorem text_v4_ne_text_v6 (a : Ipv4) (b : Ipv6) (p q : UInt16) :
    text ⟨.v4 a, p⟩ ≠ text ⟨.v6 b, q⟩ := by
  intro h
  have hmem : '[' ∈ (text ⟨.v4 a, p⟩).toList := by
    rw [h, toList_text_v6]
    exact List.mem_cons_self
  rw [toList_text_v4, List.mem_append, List.mem_cons] at hmem
  rcases hmem with hmem | hmem | hmem
  · exact absurd (Ipv4.mem_chars hmem) (by decide)
  · exact absurd hmem (by decide)
  · exact not_mem_port rfl p hmem

/-- An endpoint is determined by its text. -/
theorem text_inj {e f : Endpoint} (h : e.text = f.text) : e = f := by
  have hport : ∀ {p q : UInt16}, Nat.toDigits 10 p.toNat = Nat.toDigits 10 q.toNat → p = q :=
    fun hpq => UInt16.toNat_inj.mp (Digits.decimal_inj (congrArg String.ofList hpq))
  obtain ⟨_ | _, p⟩ := e <;> obtain ⟨_ | _, q⟩ := f
  case v4.v4 a b =>
    have h' := congrArg String.toList h
    rw [toList_text_v4, toList_text_v4] at h'
    have hcolon : ':' ∉ a.chars := fun hmem => absurd (Ipv4.mem_chars hmem) (by decide)
    obtain ⟨hchars, -, hdigits⟩ :=
      (List.append_cons_inj_of_notMem hcolon (not_mem_port rfl p)).mp h'
    rw [IpAddress.text_inj (a := .v4 a) (b := .v4 b) (congrArg String.ofList hchars),
      hport hdigits]
  case v4.v6 a b => exact absurd h (text_v4_ne_text_v6 a b p q)
  case v6.v4 a b => exact absurd h.symm (text_v4_ne_text_v6 b a q p)
  case v6.v6 a b =>
    have h' := congrArg String.toList h
    rw [toList_text_v6, toList_text_v6] at h'
    have hbracket : ']' ∉ '[' :: a.chars := by
      rw [List.mem_cons, not_or]
      exact ⟨by decide, fun hmem => absurd (Ipv6.mem_chars hmem) (by decide)⟩
    have hend : ']' ∉ ':' :: Nat.toDigits 10 p.toNat := by
      rw [List.mem_cons, not_or]
      exact ⟨by decide, not_mem_port rfl p⟩
    obtain ⟨hchars, -, hdigits⟩ := (List.append_cons_inj_of_notMem hbracket hend).mp h'
    rw [IpAddress.text_inj (a := .v6 a) (b := .v6 b)
      (congrArg String.ofList (List.cons.inj hchars).2), hport (List.cons.inj hdigits).2]

end Endpoint

end ProxyHeader
