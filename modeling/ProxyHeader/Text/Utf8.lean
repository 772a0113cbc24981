import ProxyHeader.Bytes.BigEndian

/-!
# Reading UTF-8

Bytes are read one at a time. Between characters the reader waits for a lead byte;
after the lead byte of a longer character it waits for continuation bytes, the first of
which may be limited to part of their range so that no character is written longer than
it has to be, no surrogate and nothing above the last code point is written at all.

`pieces` splits bytes into characters and maximal invalid parts: a byte that cannot go
on the character begun before it ends that part and is looked at afresh. Strict reading
(`decode?`) wants characters only, lossy reading (`lossy`) puts the replacement
character for every invalid part.
-/

namespace ProxyHeader

namespace Utf8

/-! ## The machine -/

/-- Where the reader stands between two bytes. -/
inductive State where
  /-- Before a character. -/
  | start
  /-- Inside a character: `missing + 1` continuation bytes are owed, the next of them
  between `low` and `high`, and `bits` is the code point read so far. -/
  | inside (missing : Nat) (low high : UInt8) (bits : Nat)
  deriving Repr, DecidableEq

/-- One byte read before a character. -/
def State.lead (b : UInt8) : List (Option Char) × State :=
  if b < 0x80 then ([some (Char.ofNat b.toNat)], .start)
  else if b < 0xC2 then ([none], .start)
  else if b < 0xE0 then ([], .inside 0 0x80 0xBF (b.toNat - 0xC0))
  else if b = 0xE0 then ([], .inside 1 0xA0 0xBF 0)
  else if b = 0xED then ([], .inside 1 0x80 0x9F 0xD)
  else if b < 0xF0 then ([], .inside 1 0x80 0xBF (b.toNat - 0xE0))
  else if b = 0xF0 then ([], .inside 2 0x90 0xBF 0)
  else if b < 0xF4 then ([], .inside 2 0x80 0xBF (b.toNat - 0xF0))
  else if b = 0xF4 then ([], .inside 2 0x80 0x8F 4)
  else ([none], .start)

/-- One byte: the characters and invalid parts it completes, and the state after it. -/
def State.step : State → UInt8 → List (Option Char) × State
  | .start, b => lead b
  | .inside missing low high bits, b =>
    if low ≤ b ∧ b ≤ high then
      let bits := bits * 64 + (b.toNat - 0x80)
      match missing with
      | 0 => ([some (Char.ofNat bits)], .start)
      | missing + 1 => ([], .inside missing 0x80 0xBF bits)
    else
      let (out, next) := lead b
      (none :: out, next)

/-- The characters of `bs` in order, with `none` for each maximal invalid part. -/
def State.pieces : State → Bytes → List (Option Char)
  | .start, [] => []
  | .inside .., [] => [none]
  | s, b :: bs => (s.step b).1 ++ (s.step b).2.pieces bs

/-! ## Strict and lossy text -/

/-- The characters and invalid parts of a run of bytes. -/
def pieces (bs : Bytes) : List (Option Char) :=
  State.start.pieces bs

/-- The text that the bytes encode, if they are valid throughout. -/
def decode? (bs : Bytes) : Option String :=
  ((pieces bs).mapM id).map String.ofList

/-- What stands for an invalid part. -/
def replacement : Char := '\uFFFD'

/-- The text of the bytes with a replacement character for every invalid part. -/
def lossy (bs : Bytes) : String :=
  String.ofList ((pieces bs).map fun piece => piece.getD replacement)

/-- Valid bytes are characters throughout. -/
theorem pieces_of_decode? {bs : Bytes} {s : String} (h : decode? bs = some s) :
    pieces bs = s.toList.map some := by
  have all_some : ∀ (ps : List (Option Char)) (cs : List Char), ps.mapM id = some cs →
      ps = cs.map some := by
    intro ps
    induction ps with
    | nil => simp
    | cons p ps ih =>
      intro cs h
      cases p with
      | none => simp at h
      | some c =>
        simp only [List.mapM_cons, id_eq, Option.pure_def, Option.bind_eq_bind, Option.bind_some,
          Option.bind_eq_some_iff, Option.some.injEq] at h
        obtain ⟨cs', h', rfl⟩ := h
        rw [ih cs' h', List.map_cons]
  obtain ⟨cs, hcs, rfl⟩ := Option.map_eq_some_iff.mp h
  rw [all_some _ _ hcs, String.toList_ofList]

/-- Valid bytes read the same either way. -/
theorem lossy_of_decode? {bs : Bytes} {s : String} (h : decode? bs = some s) : lossy bs = s := by
  simp [lossy, pieces_of_decode? h, Function.comp_def]

end Utf8

end ProxyHeader
