import Mathlib.Algebra.Ring.Nat
import ProxyHeader.Proofs.AddressBlock

/-!
# The fields of an address block

A block is read one field after the other, and every field that is cut short has the same
answer: how many bytes the header takes and how many were received. `Addresses.readInTurn`
is that chain of reads with an answer of its own for each field, which shows the field that
was reached (`Addresses.readInTurn_of_cut`); decoding is the chain in which all answers are
one (`Addresses.decode_eq_readInTurn`).

`Addresses.readsBlock` puts together what decoding makes of any block of any family.
-/

namespace ProxyHeader

/-! ## Fields cut short -/

/-- The first of some fields that `available` bytes do not reach the end of. -/
def firstCut? : List Nat → Nat → Option Nat
  | [], _ => none
  | width :: widths, available =>
    if available < width then some 0 else (firstCut? widths (available - width)).map (· + 1)

theorem firstCut?_isSome {widths : List Nat} {available : Nat} :
    (firstCut? widths available).isSome ↔ available < widths.sum := by
  induction widths generalizing available with
  | nil => simp [firstCut?]
  | cons width widths ih =>
    rw [firstCut?, List.sum_cons]
    split
    next hcut =>
      simp only [Option.isSome_some, true_iff]
      omega
    next hfits =>
      rw [Option.isSome_map, ih]
      omega

/-- The widths of the fields of a block, in the order they are read in. -/
def Family.fieldWidths : Family → List Nat
  | .inet => [4, 4, 2, 2]
  | .inet6 => [16, 16, 2, 2]
  | .unix => [216]
  | .unspec => []

theorem Family.sum_fieldWidths (f : Family) : f.fieldWidths.sum = f.blockLength := by
  cases f <;> rfl

namespace Reader

/-- Operations that hand out the next `n` bytes, in whatever form, and fail on fewer. -/
structure Takes {α : Type} (n : Nat) (read : Reader → Option (α × Reader)) : Prop where
  none_of_lt (r : Reader) : r.remaining < n → read r = none
  exists_of_le (r : Reader) : n ≤ r.remaining →
    ∃ a r', read r = some (a, r') ∧ r'.remaining = r.remaining - n

/-- An operation that hands out what the bytes in front of it are the bytes of, where
enough bytes are those of something. -/
theorem takes_of_eq_some_iff {α : Type} {n : Nat} {read : Reader → Option (α × Reader)}
    (bytes : α → Bytes)
    (hsome : ∀ {r r' : Reader} {a : α}, read r = some (a, r') ↔ (bytes a).length = n ∧
      r.rest = bytes a ++ r'.rest ∧ r'.base = r.base ∧ r'.consumed = r.consumed + n)
    (hopens : ∀ {bs : Bytes}, n ≤ bs.length →
      ∃ (a : α) (rest : Bytes), bs = bytes a ++ rest ∧ (bytes a).length = n) :
    Takes n read where
  none_of_lt r h := by
    refine Option.eq_none_iff_forall_ne_some.mpr fun ⟨a, r'⟩ hr => ?_
    obtain ⟨hlen, hrest, -, -⟩ := hsome.mp hr
    rw [remaining, hrest, List.length_append] at h
    omega
  exists_of_le r h := by
    obtain ⟨a, rest, hr, hlen⟩ := hopens h
    refine ⟨a, ⟨r.base, r.consumed + n, rest⟩, hsome.mpr ⟨hlen, hr, rfl, rfl⟩, ?_⟩
    rw [remaining, remaining, hr, List.length_append, hlen, Nat.add_sub_cancel_left]

theorem takes_take (n : Nat) : Takes n (take n) :=
  takes_of_eq_some_iff id take_eq_some_iff fun {bs} h =>
    ⟨bs.take n, bs.drop n, (List.take_append_drop n bs).symm, List.length_take_of_le h⟩

theorem takes_vector (n : Nat) : Takes n (vector n) := by
  refine takes_of_eq_some_iff Vector.toList ?_ fun h => ?_
  · exact vector_eq_some_iff.trans (and_iff_right Vector.length_toList).symm
  · obtain ⟨v, rest, hr⟩ := exists_eq_vector_append h
    exact ⟨v, rest, hr, Vector.length_toList⟩

theorem takes_u16 : Takes 2 u16 := by
  refine takes_of_eq_some_iff BigEndian.bytes16 ?_ fun h => ?_
  · exact u16_eq_some_iff.trans (and_iff_right rfl).symm
  · obtain ⟨w, rest, hr⟩ := exists_eq_bytes16_append h
    exact ⟨w, rest, hr, rfl⟩

end Reader

namespace Addresses

/-! ## Reads in a chain -/

/-- What a read of a field hands out, or `short` where it finds too few bytes. -/
def orShort {α : Type} (short : HeaderError) : Option α → Except HeaderError α
  | some a => .ok a
  | none => .error short

/-- Two addresses of `n` bytes and their ports, with `short i` for the field `i`. -/
def pairInTurn {n : Nat} (ip : Vector UInt8 n → IpAddress) (short : Nat → HeaderError)
    (r : Reader) : Except HeaderError (Endpoint × Endpoint) := do
  let (source, r) ← orShort (short 0) (r.vector n)
  let (destination, r) ← orShort (short 1) (r.vector n)
  let (sourcePort, r) ← orShort (short 2) r.u16
  let (destinationPort, _) ← orShort (short 3) r.u16
  return (⟨ip source, sourcePort⟩, ⟨ip destination, destinationPort⟩)

/-- A block read field by field, with `short i` as the answer where the field `i` is the
first that is cut short. -/
def readInTurn (short : Nat → HeaderError) (family : Family) (r : Reader) :
    Except HeaderError Addresses :=
  match family with
  | .inet => (pairInTurn (fun octets => .v4 ⟨octets⟩) short r).map fun (s, d) => inet s d
  | .inet6 => (pairInTurn (fun octets => .v6 ⟨octets⟩) short r).map fun (s, d) => inet6 s d
  | .unix => (orShort (short 0) (r.take family.blockLength)).map fun _ => unix
  | .unspec => .ok unspecified

/-- A field in front of the others is cut short, or one of the others is. -/
theorem orShort_bind_of_cut {α β : Type} {n i : Nat} {widths : List Nat} {r : Reader}
    {read : Reader → Option (α × Reader)} {others : α × Reader → Except HeaderError β}
    (hread : Reader.Takes n read) (short : Nat → HeaderError)
    (hcut : firstCut? (n :: widths) r.remaining = some i)
    (hothers : ∀ a r' j, firstCut? widths r'.remaining = some j →
      others (a, r') = .error (short (j + 1))) :
    (orShort (short 0) (read r) >>= others) = .error (short i) := by
  rw [firstCut?] at hcut
  split at hcut
  next hlt =>
    obtain rfl := Option.some.inj hcut
    rw [hread.none_of_lt r hlt]
    rfl
  next hle =>
    obtain ⟨a, r', hsome, hremaining⟩ := hread.exists_of_le r (Nat.le_of_not_lt hle)
    obtain ⟨j, hj, rfl⟩ := Option.map_eq_some_iff.mp hcut
    rw [← hremaining] at hj
    rw [hsome]
    exact hothers a r' j hj

theorem pairInTurn_of_cut {n i : Nat} {r : Reader} (ip : Vector UInt8 n → IpAddress)
    (short : Nat → HeaderError) (hcut : firstCut? [n, n, 2, 2] r.remaining = some i) :
    pairInTurn ip short r = .error (short i) := by
  have hvector := Reader.takes_vector n
  refine orShort_bind_of_cut hvector short hcut fun _ _ _ h₁ => ?_
  refine orShort_bind_of_cut hvector (fun j => short (j + 1)) h₁ fun _ _ _ h₂ => ?_
  refine orShort_bind_of_cut Reader.takes_u16 (fun j => short (j + 2)) h₂ fun _ _ _ h₃ => ?_
  refine orShort_bind_of_cut Reader.takes_u16 (fun j => short (j + 3)) h₃ fun _ _ _ h₄ => ?_
  simp [firstCut?] at h₄

/-- The answer tells which field was cut short. -/
theorem readInTurn_of_cut {f : Family} {r : Reader} {i : Nat} (short : Nat → HeaderError)
    (hcut : firstCut? f.fieldWidths r.remaining = some i) :
    readInTurn short f r = .error (short i) := by
  cases f with
  | inet => rw [readInTurn, pairInTurn_of_cut _ short hcut]; rfl
  | inet6 => rw [readInTurn, pairInTurn_of_cut _ short hcut]; rfl
  | unix =>
    have hread : orShort (short 0) (r.take 216) = .error (short i) := by
      rw [← bind_pure (orShort _ _)]
      exact orShort_bind_of_cut (Reader.takes_take 216) short hcut fun _ _ _ h => by
        simp [firstCut?] at h
    simp only [readInTurn, Family.blockLength, hread]
    rfl
  | unspec => simp [Family.fieldWidths, firstCut?] at hcut

/-! ## Decoding as a chain of reads -/

theorem orShort_bind {α β : Type} (short : HeaderError) (read : Option α) (k : α → Option β) :
    (orShort short read >>= fun a => orShort short (k a)) = orShort short (read >>= k) := by
  cases read <;> rfl

theorem orShort_map {α β : Type} (short : HeaderError) (read : Option α) (k : α → β) :
    (orShort short read).map k = orShort short (read.map k) := by
  cases read <;> rfl

theorem pairInTurn_eq_readPair {n : Nat} (ip : Vector UInt8 n → IpAddress) (short : HeaderError)
    (r : Reader) : pairInTurn ip (fun _ => short) r = orShort short (readPair ip r) := by
  refine (bind_congr fun ⟨source, r₁⟩ => ?_).trans (orShort_bind short _ _)
  refine (bind_congr fun ⟨destination, r₂⟩ => ?_).trans (orShort_bind short _ _)
  refine (bind_congr fun ⟨sourcePort, r₃⟩ => ?_).trans (orShort_bind short _ _)
  exact (bind_congr fun ⟨destinationPort, r₄⟩ => rfl).trans (orShort_bind short _ _)

/-- Decoding is the chain in which every field has one answer, with the counts of the
whole block. -/
theorem decode_eq_readInTurn (f : Family) (block : Bytes) :
    decode f block = readInTurn
      (fun _ => .shortRead (preambleLength + f.blockLength) (preambleLength + block.length))
      f (.ofBytes block preambleLength) := by
  have hdecode (short : HeaderError) (r : Reader) :
      readInTurn (fun _ => short) f r = orShort short (read? f r) := by
    cases f with
    | inet => rw [readInTurn, pairInTurn_eq_readPair, orShort_map, read?]
    | inet6 => rw [readInTurn, pairInTurn_eq_readPair, orShort_map, read?]
    | unix => exact orShort_map short _ _
    | unspec => rfl
  rw [hdecode, decode]
  cases read? f (.ofBytes block preambleLength) <;> rfl

/-! ## What decoding makes of a block -/

/-- Too few bytes have one answer, and it is the only error there is. -/
theorem decode_eq_error_iff {f : Family} {block : Bytes} {e : HeaderError} :
    decode f block = .error e ↔ block.length < f.blockLength ∧
      e = .shortRead (preambleLength + f.blockLength) (preambleLength + block.length) := by
  by_cases hlen : block.length < f.blockLength
  · obtain ⟨i, hi⟩ := Option.isSome_iff_exists.mp
      (firstCut?_isSome.mpr (f.sum_fieldWidths.symm ▸ hlen))
    rw [decode_eq_readInTurn, readInTurn_of_cut _ (r := .ofBytes block preambleLength) hi,
      Except.error.injEq]
    exact ⟨fun h => ⟨hlen, h.symm⟩, fun h => h.2.symm⟩
  · obtain ⟨a, ha⟩ := exists_decode_eq_ok (Nat.le_of_not_lt hlen)
    rw [ha]
    exact ⟨fun h => absurd h (by simp), fun h => absurd h.1 hlen⟩

/-- Only the bytes of the block itself matter. -/
theorem decode_eq_ok_of_take_eq {f : Family} {block other : Bytes} {a : Addresses}
    (ha : decode f block = .ok a) (h : other.take f.blockLength = block.take f.blockLength) :
    decode f other = .ok a := by
  obtain ⟨hfamily, hlen, hencode⟩ := decode_eq_ok_iff.mp ha
  have hlength := congrArg List.length h
  rw [List.length_take, List.length_take] at hlength
  exact decode_eq_ok_iff.mpr ⟨hfamily, by omega, by rwa [h]⟩

/-- The endpoints that a block says, written out again, are the block; the families whose
blocks say none have none. -/
def PairOf (f : Family) (block : Bytes) (a : Addresses) : Prop :=
  match f with
  | .inet => ∃ s d, a = .inet s d ∧ encodePair s d = block.take 12
  | .inet6 => ∃ s d, a = .inet6 s d ∧ encodePair s d = block.take 36
  | .unix | .unspec => a.endpoints? = none

theorem pairOf_of_decode {f : Family} {block : Bytes} {a : Addresses}
    (ha : decode f block = .ok a) : PairOf f block a := by
  obtain ⟨hfamily, -, hencode⟩ := decode_eq_ok_iff.mp ha
  cases hfamily with
  | inet => exact ⟨_, _, rfl, hencode⟩
  | inet6 => exact ⟨_, _, rfl, hencode⟩
  | unix => rfl
  | unspec => rfl

/-- What decoding makes of a block of a family. -/
structure ReadsBlock (f : Family) (block : Bytes) : Prop where
  /-- The fields are as long as the block. -/
  widths : f.fieldWidths.sum = f.blockLength
  /-- Whichever field is the first to be cut short answers. -/
  firstCut (short : Nat → HeaderError) (i : Nat) :
    firstCut? f.fieldWidths block.length = some i →
      readInTurn short f (.ofBytes block preambleLength) = .error (short i)
  /-- The answers of all fields are one. -/
  inTurn : decode f block = readInTurn
    (fun _ => .shortRead (preambleLength + f.blockLength) (preambleLength + block.length))
    f (.ofBytes block preambleLength)
  /-- The block is refused for being short, and for nothing else. -/
  refused (e : HeaderError) : decode f block = .error e ↔ block.length < f.blockLength ∧
    e = .shortRead (preambleLength + f.blockLength) (preambleLength + block.length)
  /-- Otherwise it is read, whatever stands behind its own bytes. -/
  accepted : f.blockLength ≤ block.length → ∃ a, PairOf f block a ∧
    ∀ other : Bytes, other.take f.blockLength = block.take f.blockLength →
      decode f other = .ok a
  /-- Blocks with the same endpoints are the same block. -/
  distinct (other : Bytes) : f = .inet ∨ f = .inet6 → block.length = f.blockLength →
    other.length = f.blockLength → block ≠ other →
    ∃ a b, decode f block = .ok a ∧ decode f other = .ok b ∧ a.endpoints? ≠ b.endpoints?

theorem PairOf.exists_endpoints {f : Family} {block : Bytes} {a : Addresses}
    (h : PairOf f block a) (hf : f = .inet ∨ f = .inet6) :
    ∃ s d, a.endpoints? = some (s, d) ∧ encodePair s d = block.take f.blockLength := by
  obtain rfl | rfl := hf
  · obtain ⟨s, d, rfl, hpair⟩ := h
    exact ⟨s, d, rfl, hpair⟩
  · obtain ⟨s, d, rfl, hpair⟩ := h
    exact ⟨s, d, rfl, hpair⟩

/-- The endpoints in two blocks of an internet family tell the blocks apart. -/
theorem endpoints?_ne_of_ne {f : Family} {block other : Bytes} {a b : Addresses}
    (hf : f = .inet ∨ f = .inet6) (hblock : block.length = f.blockLength)
    (hother : other.length = f.blockLength) (hne : block ≠ other)
    (ha : decode f block = .ok a) (hb : decode f other = .ok b) :
    a.endpoints? ≠ b.endpoints? := by
  intro hendpoints
  obtain ⟨s, d, hsd, hpair⟩ := (pairOf_of_decode ha).exists_endpoints hf
  obtain ⟨s', d', hsd', hpair'⟩ := (pairOf_of_decode hb).exists_endpoints hf
  rw [hsd, hsd'] at hendpoints
  obtain ⟨rfl, rfl⟩ := Prod.mk.inj (Option.some.inj hendpoints)
  refine hne ?_
  rw [← List.take_of_length_le (Nat.le_of_eq hblock), ← hpair, hpair',
    List.take_of_length_le (Nat.le_of_eq hother)]

theorem readsBlock (f : Family) (block : Bytes) : ReadsBlock f block where
  widths := f.sum_fieldWidths
  firstCut short _ hcut := readInTurn_of_cut (r := .ofBytes block preambleLength) short hcut
  inTurn := decode_eq_readInTurn f block
  refused _ := decode_eq_error_iff
  accepted hlen := by
    obtain ⟨a, ha⟩ := exists_decode_eq_ok hlen
    exact ⟨a, pairOf_of_decode ha, fun _ => decode_eq_ok_of_take_eq ha⟩
  distinct other hf hblock hother hne := by
    obtain ⟨a, ha⟩ := exists_decode_eq_ok (Nat.le_of_eq hblock.symm)
    obtain ⟨b, hb⟩ := exists_decode_eq_ok (Nat.le_of_eq hother.symm)
    exact ⟨a, b, ha, hb, endpoints?_ne_of_ne hf hblock hother hne ha hb⟩

end Addresses

end ProxyHeader
