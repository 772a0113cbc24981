import Mathlib.Tactic.Common
import ProxyHeader.Bytes.BigEndian

/-!
# Tilings

Records follow each other with nothing between them, and each says where it ends. What
this gives holds of any way to write pieces down in which no written piece is empty and
none is the beginning of another (`PrefixCode`).

Any bytes open with a run of pieces after which no further piece stands
(`PrefixCode.exists_tiling`), and there is only one such run
(`PrefixCode.tiling_unique`). `located` gives each piece of a run the offset that it
starts at, and where the run stands in a buffer the piece stands at that offset
(`drop_of_mem_located`).
-/

namespace ProxyHeader

/-! ## Parts of a buffer -/

theorem extract_append_extract (buf : Bytes) {start p stop : Nat} (h₁ : start ≤ p)
    (h₂ : p ≤ stop) : buf.extract start p ++ buf.extract p stop = buf.extract start stop := by
  simp only [List.extract_eq_take_drop]
  have hdrop : buf.drop p = (buf.drop start).drop (p - start) := by
    rw [List.drop_drop]
    congr 1
    omega
  have hsum : stop - start = (p - start) + (stop - p) := by omega
  rw [hdrop, hsum, List.take_add]

theorem extract_append_drop (buf : Bytes) {start stop : Nat} (h : start ≤ stop) :
    buf.extract start stop ++ buf.drop stop = buf.drop start := by
  have hdrop : buf.drop stop = (buf.drop start).drop (stop - start) := by
    rw [List.drop_drop]
    congr 1
    omega
  rw [List.extract_eq_take_drop, hdrop, List.take_append_drop]

theorem length_extract {buf : Bytes} {start stop : Nat} (h : stop ≤ buf.length) :
    (buf.extract start stop).length = stop - start := by
  simp only [List.extract_eq_take_drop, List.length_take, List.length_drop]
  omega

theorem extract_append_of_le {buf : Bytes} {start stop : Nat} (h : stop ≤ buf.length)
    (t : Bytes) : (buf ++ t).extract start stop = buf.extract start stop := by
  rcases Nat.lt_or_ge stop start with hlt | hge
  · simp only [List.extract_eq_take_drop, Nat.sub_eq_zero_of_le (Nat.le_of_lt hlt), List.take_zero]
  · rw [List.extract_eq_take_drop, List.extract_eq_take_drop,
      List.drop_append_of_le_length (by omega),
      List.take_append_of_le_length (by rw [List.length_drop]; omega)]

theorem extract_of_drop_eq {buf x y : Bytes} {p : Nat} (h : buf.drop p = x ++ y) :
    buf.extract p (p + x.length) = x := by
  rw [List.extract_eq_take_drop, h, Nat.add_sub_cancel_left, List.take_left]

theorem extract_append_append (x y z : Bytes) :
    (x ++ (y ++ z)).extract x.length (x.length + y.length) = y :=
  extract_of_drop_eq List.drop_left

theorem drop_add_of_drop_eq {buf x y : Bytes} {p : Nat} (h : buf.drop p = x ++ y) :
    buf.drop (p + x.length) = y := by
  rw [← List.drop_drop, h, List.drop_left]

/-! ## Pieces -/

variable {α : Type}

/-- A way to write pieces down so that no written piece is empty and none is the
beginning of another. -/
structure PrefixCode (write : α → Bytes) : Prop where
  ne_nil : ∀ a, write a ≠ []
  eq_of_append_eq : ∀ {a b : α} {x y : Bytes}, write a ++ x = write b ++ y → write a = write b

/-- No written piece stands at the front of `bs`. -/
def Stuck (write : α → Bytes) (bs : Bytes) : Prop :=
  ∀ a, ¬ write a <+: bs

theorem Stuck.mono {write : α → Bytes} {bs cs : Bytes} (hs : Stuck write cs) (h : bs <+: cs) :
    Stuck write bs := fun a ha =>
  hs a (ha.trans h)

theorem not_stuck_iff {write : α → Bytes} {bs : Bytes} :
    ¬ Stuck write bs ↔ ∃ (a : α) (rest : Bytes), bs = write a ++ rest := by
  simp only [Stuck, not_forall, not_not, List.IsPrefix, eq_comm]

namespace PrefixCode

variable {write : α → Bytes}

theorem stuck_nil (hw : PrefixCode write) : Stuck write [] := fun a h =>
  hw.ne_nil a (List.prefix_nil.mp h)

/-- Pieces taken off the front as long as there is one. -/
theorem exists_tiling (hw : PrefixCode write) (bs : Bytes) :
    ∃ (as : List α) (tail : Bytes), bs = as.flatMap write ++ tail ∧ Stuck write tail := by
  induction hn : bs.length using Nat.strongRecOn generalizing bs with
  | ind n ih =>
    by_cases hs : ∃ a, write a <+: bs
    · obtain ⟨a, rest, rfl⟩ := hs
      have hpos : 0 < (write a).length := List.length_pos_iff.mpr (hw.ne_nil a)
      have hlt : rest.length < n := by
        rw [← hn, List.length_append]
        omega
      obtain ⟨as, tail, rfl, htail⟩ := ih rest.length hlt rest rfl
      exact ⟨a :: as, tail, by simp, htail⟩
    · exact ⟨[], bs, rfl, fun a h => hs ⟨a, h⟩⟩

/-- The first piece of a run is the only one that stands at its front. -/
theorem not_stuck_append (a : α) (bs : Bytes) : ¬ Stuck write (write a ++ bs) := fun h =>
  h a (List.prefix_append _ _)

/-- Two runs of pieces over the same bytes, neither of which can go on, are the same. -/
theorem tiling_unique (hw : PrefixCode write) :
    ∀ {as bs : List α} {x y : Bytes}, as.flatMap write ++ x = bs.flatMap write ++ y →
      Stuck write x → Stuck write y → as.flatMap write = bs.flatMap write ∧ x = y
  | [], [], _, _, h, _, _ => ⟨rfl, by simpa using h⟩
  | [], b :: bs, x, y, h, hx, _ => by
    simp only [List.flatMap_nil, List.nil_append, List.flatMap_cons, List.append_assoc] at h
    exact absurd (h ▸ hx) (not_stuck_append b _)
  | a :: as, [], x, y, h, _, hy => by
    simp only [List.flatMap_nil, List.nil_append, List.flatMap_cons, List.append_assoc] at h
    exact absurd (h ▸ hy) (not_stuck_append a _)
  | a :: as, b :: bs, x, y, h, hx, hy => by
    simp only [List.flatMap_cons, List.append_assoc] at h
    have hab := hw.eq_of_append_eq h
    rw [hab] at h
    obtain ⟨has, hxy⟩ := tiling_unique hw (List.append_cancel_left h) hx hy
    exact ⟨by rw [List.flatMap_cons, List.flatMap_cons, hab, has], hxy⟩

/-- In a buffer no run of pieces reaches past the end of one that cannot go on. -/
theorem le_of_stuck (hw : PrefixCode write) {buf : Bytes} {start stop p q : Nat}
    {as bs : List α} (hlen : stop ≤ buf.length) (hp : start ≤ p) (hq : q ≤ stop)
    (has : buf.extract start p = as.flatMap write) (hs : Stuck write (buf.extract p stop))
    (hbs : buf.extract start q = bs.flatMap write) : q ≤ p := by
  by_contra hlt
  have hstuck : Stuck write (buf.extract p q) :=
    hs.mono ⟨buf.extract q stop, extract_append_extract buf (by omega) hq⟩
  have h : as.flatMap write ++ buf.extract p q = bs.flatMap write ++ [] := by
    rw [← has, extract_append_extract buf hp (by omega), hbs, List.append_nil]
  have hsize := congrArg List.length (hw.tiling_unique h hstuck hw.stuck_nil).2
  rw [length_extract (by omega), List.length_nil] at hsize
  omega

end PrefixCode

/-! ## Offsets -/

/-- Pieces that follow each other from `offset` on, each with the offset it starts at. -/
def located (write : α → Bytes) : Nat → List α → List (Nat × α)
  | _, [] => []
  | offset, a :: as => (offset, a) :: located write (offset + (write a).length) as

/-- Located pieces are written as the pieces are. -/
theorem flatMap_located (write : α → Bytes) :
    ∀ (offset : Nat) (as : List α),
      (located write offset as).flatMap (fun x => write x.2) = as.flatMap write
  | _, [] => rfl
  | offset, a :: as => by
    rw [located, List.flatMap_cons, List.flatMap_cons, flatMap_located write _ as]

/-- A piece starts right after the pieces before it. -/
theorem split_of_mem_located {write : α → Bytes} {o : Nat} {a : α} :
    ∀ {offset : Nat} {as : List α}, (o, a) ∈ located write offset as →
      ∃ pre post, as = pre ++ a :: post ∧ o = offset + (pre.flatMap write).length
  | offset, b :: as, h => by
    rcases List.mem_cons.mp h with h | h
    · obtain ⟨rfl, rfl⟩ := Prod.mk.inj h
      exact ⟨[], as, rfl, by simp⟩
    · obtain ⟨pre, post, rfl, rfl⟩ := split_of_mem_located h
      refine ⟨b :: pre, post, rfl, ?_⟩
      rw [List.flatMap_cons, List.length_append, Nat.add_assoc]

/-- A piece stands among the bytes of all pieces. -/
theorem bounds_of_mem_located {write : α → Bytes} {start o : Nat} {as : List α} {a : α}
    (h : (o, a) ∈ located write start as) :
    start ≤ o ∧ o + (write a).length ≤ start + (as.flatMap write).length := by
  obtain ⟨pre, post, rfl, rfl⟩ := split_of_mem_located h
  rw [List.flatMap_append, List.flatMap_cons]
  simp only [List.length_append]
  omega

/-- Later pieces start at greater offsets. -/
theorem PrefixCode.pairwise_located {write : α → Bytes} (hw : PrefixCode write) :
    ∀ (offset : Nat) (as : List α), (located write offset as).Pairwise fun a b => a.1 < b.1
  | _, [] => List.Pairwise.nil
  | offset, a :: as => by
    refine List.pairwise_cons.mpr ⟨fun b hb => ?_, hw.pairwise_located _ as⟩
    have hpos := List.length_pos_iff.mpr (hw.ne_nil a)
    have hge := (bounds_of_mem_located hb).1
    omega

/-- Where pieces stand in a buffer, each of them stands at its offset, among the bytes of
all of them. -/
theorem drop_of_mem_located {write : α → Bytes} {buf rest : Bytes} {start o : Nat}
    {as : List α} {a : α} (hbuf : buf.drop start = as.flatMap write ++ rest)
    (h : (o, a) ∈ located write start as) :
    start ≤ o ∧ o + (write a).length ≤ start + (as.flatMap write).length ∧
      ∃ rest', buf.drop o = write a ++ rest' := by
  obtain ⟨hge, hle⟩ := bounds_of_mem_located h
  obtain ⟨pre, post, rfl, rfl⟩ := split_of_mem_located h
  rw [List.flatMap_append, List.flatMap_cons] at hbuf
  refine ⟨hge, hle, post.flatMap write ++ rest, ?_⟩
  refine drop_add_of_drop_eq (x := pre.flatMap write) ?_
  rw [hbuf, List.append_assoc, List.append_assoc]

end ProxyHeader
