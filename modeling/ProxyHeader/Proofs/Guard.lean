import ProxyHeader.Proofs.Header
import ProxyHeader.Proofs.Opening

/-!
# Guards that never fire

`Info.read` takes bytes off the front of a list, so that no step of it can go wrong.
`Guarded.read` does the same by positions in the received bytes, and each step that a
wrong position would spoil is guarded: a difference is not taken below zero
(`minus`), and bytes that were counted before are looked for all the same
(`orMissing`). A guard that fires stops the reading in another way than a refusal does.

A `Cursor` at a position in its buffer stands for the reader of what follows there
(`Cursor.reader`). As long as it is not past the end, it reads the same records
(`Cursor.record_eq`) and the walks from it end alike (`Guarded.readSubExtensions_eq`,
`Guarded.readAll_eq`). So guarded reading answers as `Info.read` does, and no guard
fires (`Guarded.read_eq`).
-/

namespace ProxyHeader

/-- Why guarded reading stops. -/
inductive Stop where
  /-- The header is refused. -/
  | refused (e : HeaderError)
  /-- Bytes that were counted before are not there; `e` would be the answer. -/
  | missing (e : HeaderError)
  /-- A number was to be taken from a smaller one. -/
  | underflow
  deriving Repr, DecidableEq

/-! ## Guards -/

section Guards

variable {α : Type}

/-- The difference of two numbers, which must not be below zero. -/
def minus (m n : Nat) : Except Stop Nat :=
  if n ≤ m then .ok (m - n) else .error .underflow

/-- What is there; if it is missing, reading stops. -/
def orMissing (e : HeaderError) : Option α → Except Stop α
  | some a => .ok a
  | none => .error (.missing e)

/-- The bytes from one position up to another, if the buffer has them. -/
def part? (buf : Bytes) (start stop : Nat) : Option Bytes :=
  if start ≤ stop ∧ stop ≤ buf.length then some (buf.extract start stop) else none

theorem minus_of_le {m n : Nat} (h : n ≤ m) : minus m n = .ok (m - n) :=
  if_pos h

theorem part?_of_le {buf : Bytes} {start stop : Nat} (h₁ : start ≤ stop)
    (h₂ : stop ≤ buf.length) : part? buf start stop = some (buf.extract start stop) :=
  if_pos ⟨h₁, h₂⟩

/-- How a walk ends, with what it found only where it came to its end. -/
def Walk.outcome (w : Walk α) : Except Stop (α × List Anomaly) :=
  match w.result with
  | .ok a => .ok (a, w.anomalies)
  | .error e => .error (.refused e)

/-- What is read off a list of bytes, as an outcome of guarded reading. -/
def guarded : Except HeaderError α → Except Stop α
  | .ok a => .ok a
  | .error e => .error (.refused e)

theorem Walk.outcome_noting (a : Anomaly) (w : Walk α) :
    (w.noting a).outcome = w.outcome.bind fun (x, notes) => .ok (x, a :: notes) := by
  obtain ⟨_ | _, notes⟩ := w <;> rfl

theorem Walk.outcome_map {β : Type} (f : α → β) (w : Walk α) :
    (w.map f).outcome = w.outcome.bind fun (x, notes) => .ok (f x, notes) := by
  obtain ⟨_ | _, notes⟩ := w <;> rfl

theorem Walk.outcome_andThen {β : Type} (f : α → Walk β) (w : Walk α) :
    (w.andThen f).outcome = w.outcome.bind fun (x, notes) =>
      (f x).outcome.bind fun (y, more) => .ok (y, notes ++ more) := by
  obtain ⟨_ | x, notes⟩ := w
  · rfl
  · simp only [andThen, outcome, Except.bind]
    cases (f x).result <;> rfl

end Guards

/-! ## Cursors -/

/-- A position in a buffer whose first byte has offset `base`. -/
structure Cursor where
  buf : Bytes
  base : Nat
  position : Nat

namespace Cursor

/-- A cursor at the start of `bs`, whose first byte has offset `base`. -/
def ofBytes (bs : Bytes) (base : Nat) : Cursor :=
  ⟨bs, base, 0⟩

/-- The cursor at another position of its buffer. -/
def moveTo (n : Nat) (c : Cursor) : Cursor :=
  ⟨c.buf, c.base, n⟩

/-- The offset of the next byte. -/
def offset (c : Cursor) : Nat :=
  c.base + c.position

/-- How many bytes are left. -/
def remaining (c : Cursor) : Except Stop Nat :=
  minus c.buf.length c.position

/-- The next `n` bytes, if there are as many. -/
def take (n : Nat) (c : Cursor) : Option (Bytes × Cursor) :=
  (part? c.buf c.position (c.position + n)).map fun bs => (bs, c.moveTo (c.position + n))

/-- The next byte. -/
def u8 (c : Cursor) : Option (UInt8 × Cursor) :=
  match c.take 1 with
  | some ([a], c') => some (a, c')
  | _ => none

/-- The next two bytes as a big-endian number. -/
def u16 (c : Cursor) : Option (UInt16 × Cursor) :=
  match c.take 2 with
  | some ([a, b], c') => some (BigEndian.word16 a b, c')
  | _ => none

/-- The next four bytes as a big-endian number. -/
def u32 (c : Cursor) : Option (UInt32 × Cursor) :=
  match c.take 4 with
  | some ([a, b, c₁, d], c') => some (BigEndian.word32 a b c₁ d, c')
  | _ => none

/-- Reads the next record. -/
def record (c : Cursor) : Except Stop (Record × Cursor) := do
  let left ← c.remaining
  if left < recordHeaderLength then .error (.refused (.truncated c.offset left))
  else
    let (code, c₁) ← orMissing (.truncated c.offset left) c.u8
    let (length, c₂) ← orMissing (.truncated c.offset left) c₁.u16
    if length = 0 then .error (.refused (.overrun c.offset code 0))
    else
      match c₂.take length.toNat with
      | none => .error (.refused (.overrun c.offset code length.toNat))
      | some (payload, c₃) => .ok (⟨code, c.offset, payload⟩, c₃)

/-- The reader of what follows a position. -/
def reader (c : Cursor) : Reader :=
  ⟨c.base, c.position, c.buf.drop c.position⟩

/-! ### Taking bytes -/

theorem take_of_drop_eq {c : Cursor} {x y : Bytes} (hle : c.position ≤ c.buf.length)
    (h : c.buf.drop c.position = x ++ y) :
    c.take x.length = some (x, c.moveTo (c.position + x.length)) := by
  have hlen := congrArg List.length h
  rw [List.length_drop, List.length_append] at hlen
  rw [take, part?_of_le (Nat.le_add_right _ _) (by omega), extract_of_drop_eq h]
  rfl

theorem take_of_lt {c : Cursor} {n : Nat} (h : c.buf.length < c.position + n) :
    c.take n = none := by
  rw [take, part?, if_neg (by omega)]
  rfl

/-- Bytes that follow a position are there. -/
theorem position_le_of_drop_eq {c : Cursor} {a : UInt8} {bs : Bytes}
    (h : c.buf.drop c.position = a :: bs) : c.position ≤ c.buf.length := by
  have hlen := congrArg List.length h
  rw [List.length_drop, List.length_cons] at hlen
  omega

theorem u8_of_drop_eq {c : Cursor} {a : UInt8} {bs : Bytes}
    (h : c.buf.drop c.position = a :: bs) : c.u8 = some (a, c.moveTo (c.position + 1)) := by
  have htake := take_of_drop_eq (x := [a]) (position_le_of_drop_eq h) h
  rw [List.length_singleton] at htake
  rw [u8, htake]

theorem u16_of_drop_eq {c : Cursor} {a b : UInt8} {bs : Bytes}
    (h : c.buf.drop c.position = a :: b :: bs) :
    c.u16 = some (BigEndian.word16 a b, c.moveTo (c.position + 2)) := by
  have htake := take_of_drop_eq (x := [a, b]) (position_le_of_drop_eq h) h
  rw [u16, show 2 = [a, b].length from rfl, htake]

theorem u32_of_drop_eq {c : Cursor} {a b d e : UInt8} {bs : Bytes}
    (h : c.buf.drop c.position = a :: b :: d :: e :: bs) :
    c.u32 = some (BigEndian.word32 a b d e, c.moveTo (c.position + 4)) := by
  have htake := take_of_drop_eq (x := [a, b, d, e]) (position_le_of_drop_eq h) h
  rw [u32, show 4 = [a, b, d, e].length from rfl, htake]

theorem remaining_of_le {c : Cursor} (h : c.position ≤ c.buf.length) :
    c.remaining = .ok (c.reader.rest.length) := by
  rw [remaining, minus_of_le h, reader, List.length_drop]

/-! ### Reading records -/

theorem take_eq {c : Cursor} (hle : c.position ≤ c.buf.length) (n : Nat) :
    c.take n = (c.reader.take n).map fun (bs, r) => (bs, c.moveTo r.consumed) := by
  by_cases hn : n ≤ c.reader.rest.length
  · have htake : (c.reader.rest.take n).length = n := by
      rw [List.length_take, Nat.min_eq_left hn]
    have h := take_of_drop_eq hle (List.take_append_drop n c.reader.rest).symm
    rw [htake] at h
    rw [h, Reader.take]
    simp only [htake, if_true, Option.map_some]
    rfl
  · have hnone : c.reader.take n = none := Reader.take_eq_none_iff.mpr (Nat.lt_of_not_le hn)
    rw [reader, List.length_drop] at hn
    rw [hnone, take_of_lt (by omega)]
    rfl

/-- A cursor reads the record that the reader of what follows it does. -/
theorem record_eq {c : Cursor} (hle : c.position ≤ c.buf.length) :
    c.record = guarded (c.reader.record.map fun (record, r) => (record, c.moveTo r.consumed)) := by
  obtain ⟨buf, base, position⟩ := c
  rw [record, remaining_of_le hle]
  simp only [reader] at hle ⊢
  rcases h : buf.drop position with _ | ⟨code, _ | ⟨hi, _ | ⟨lo, bs⟩⟩⟩
  · rfl
  · rfl
  · rfl
  · have h₁ : buf.drop (position + 1) = hi :: lo :: bs := drop_add_of_drop_eq (x := [code]) h
    have h₃ : buf.drop (position + 3) = bs := drop_add_of_drop_eq (x := [code, hi, lo]) h
    have hle₃ : position + 3 ≤ buf.length := by
      have hlen := congrArg List.length h
      simp only [List.length_drop, List.length_cons] at hlen
      omega
    have hcode : u8 ⟨buf, base, position⟩ = some (code, ⟨buf, base, position + 1⟩) :=
      u8_of_drop_eq h
    have hlength : u16 ⟨buf, base, position + 1⟩ =
        some (BigEndian.word16 hi lo, ⟨buf, base, position + 3⟩) := u16_of_drop_eq h₁
    have hpayload := take_eq (c := ⟨buf, base, position + 3⟩) hle₃ (BigEndian.word16 hi lo).toNat
    rw [reader, h₃] at hpayload
    have hmany : ¬ (code :: hi :: lo :: bs).length < recordHeaderLength := by
      simp [recordHeaderLength]
    simp only [bind, Except.bind, if_neg hmany, hcode, orMissing, hlength, Reader.record, Reader.u8,
      Reader.u16, Nat.add_assoc, Nat.reduceAdd, hpayload]
    split
    · rfl
    · cases Reader.take (BigEndian.word16 hi lo).toNat ⟨base, position + 3, bs⟩ with
      | none => rfl
      | some pair => rfl

/-- A cursor refuses a record for the reason that its reader does, or reads the same
record and stands behind it. -/
theorem record_cases {c : Cursor} (hle : c.position ≤ c.buf.length) :
    (∃ e, c.record = .error (.refused e) ∧ c.reader.record = .error e) ∨
      ∃ record c', c.record = .ok (record, c') ∧ c.reader.record = .ok (record, c'.reader) ∧
        c'.position ≤ c'.buf.length := by
  have hc := record_eq hle
  cases hr : c.reader.record with
  | error e =>
    rw [hr] at hc
    exact Or.inl ⟨e, hc, rfl⟩
  | ok pair =>
    obtain ⟨record, r⟩ := pair
    rw [hr] at hc
    obtain ⟨-, -, -, hrest, hbase, hconsumed⟩ := Reader.record_eq_ok_iff.mp hr
    rw [← Record.length_encode record.code] at hconsumed
    have hdrop : c.buf.drop (c.position + (Record.encode record.code record.payload).length) =
        r.rest := drop_add_of_drop_eq hrest
    have hlen := congrArg List.length hrest
    simp only [reader, List.length_drop, List.length_append] at hlen hconsumed
    refine Or.inr ⟨record, _, hc, ?_, ?_⟩
    · obtain ⟨base, consumed, rest⟩ := r
      simp only at hbase hconsumed hdrop
      simp only [reader, moveTo, hconsumed, hdrop, hbase]
    · simp only [moveTo, hconsumed]
      omega

/-- A record takes a cursor towards the end of its buffer. -/
theorem lt_of_record {c c' : Cursor} {rec : Record} (h : c.record = .ok (rec, c')) :
    c'.buf.length - c'.position < c.buf.length - c.position := by
  by_cases hle : c.position ≤ c.buf.length
  · rcases record_cases hle with ⟨e, he, -⟩ | ⟨record, c'', hc, hr, -⟩
    · simp [he] at h
    · obtain ⟨rfl, rfl⟩ := Prod.mk.inj (Except.ok.inj (hc.symm.trans h))
      simpa only [reader, List.length_drop] using Reader.length_rest_of_record hr
  · simp [record, remaining, minus, hle, bind, Except.bind] at h

end Cursor

/-! ## Guarded reading -/

namespace Guarded

/-- Reads records up to the end of a TLS value. -/
def readSubExtensions (c : Cursor) : Except Stop (List SubExtension × List Anomaly) := do
  let left ← c.remaining
  if left = 0 then .ok ([], [])
  else
    match h : c.record with
    | .error s => .error s
    | .ok (record, c') =>
      have := Cursor.lt_of_record h
      let (subs, notes) ← readSubExtensions c'
      match SubKind.ofCode? record.code with
      | some kind => .ok (⟨kind, record.offset, record.payload⟩ :: subs, notes)
      | none => .ok (subs, .unknownSubtype record.offset record.code :: notes)
termination_by c.buf.length - c.position

/-- Reads a TLS value whose first byte has offset `base`. -/
def readSsl (value : Bytes) (base : Nat) : Except Stop (SslInfo × List Anomaly) := do
  let short := .truncated base value.length
  if value.length < SslInfo.headerLength then .error (.refused short)
  else
    let (client, c) ← orMissing short (Cursor.ofBytes value base).u8
    let (verify, c) ← orMissing short c.u32
    let (subs, notes) ← readSubExtensions c
    .ok (⟨client, verify, subs⟩, notes)

/-- Decodes one record. -/
def ofRecord (record : Record) : Except Stop (Extension × List Anomaly) :=
  match ExtensionKind.ofCode record.code with
  | .ssl => do
    let (ssl, notes) ← readSsl record.payload (record.offset + recordHeaderLength)
    .ok (⟨.ssl, record.offset, record.payload, some ssl⟩, notes)
  | .unknown code =>
    .ok (⟨.unknown code, record.offset, record.payload, none⟩,
      [.unknownExtension record.offset code])
  | kind => .ok (⟨kind, record.offset, record.payload, none⟩, [])

/-- Reads records until `expected` bytes are consumed. -/
def readAll (expected : Nat) (c : Cursor) : Except Stop (List Extension × List Anomaly) := do
  if expected ≤ c.position then .ok ([], [])
  else
    let left ← minus expected c.position
    if left < recordHeaderLength then .error (.refused (.truncated c.offset left))
    else
      match h : c.record with
      | .error s => .error s
      | .ok (record, c') =>
        have := Cursor.lt_of_record h
        if expected < c'.position then .error (.refused (.bufferOverrun c'.position expected))
        else
          let (e, notes) ← ofRecord record
          let (es, more) ← readAll expected c'
          .ok (e :: es, notes ++ more)
termination_by c.buf.length - c.position

/-- Holds the declared length against the addresses of the family and what was received. -/
def measure (received : Nat) (family : Family) (transport : Transport) (declared : Nat) :
    Except Stop Preamble :=
  if declared < family.blockLength then
    .error (.refused (.lengthMismatch declared family.blockLength))
  else if received < declared + preambleLength then
    .error (.refused (.shortRead (declared + preambleLength) received))
  else do
    let extensionsLength ← minus declared family.blockLength
    .ok ⟨.proxy, family, transport, family.blockLength, extensionsLength⟩

/-- Validates the preamble at the front of the received bytes. -/
def readPreamble (buf : Bytes) : Except Stop Preamble := do
  let short := .shortRead preambleLength buf.length
  if buf.length < preambleLength then .error (.refused short)
  else if textOpening.isPrefixOf buf then .error (.refused .textHeader)
  else
    let (front, c) ← orMissing short ((Cursor.ofBytes buf 0).take signature.length)
    if front ≠ signature then .error (.refused .badSignature)
    else
      let (versionCommand, c) ← orMissing short c.u8
      if versionCommand >>> 4 ≠ version then .error (.refused (.badVersion versionCommand))
      else if Command.ofNibble? (versionCommand &&& 0x0F) ≠ some .proxy then
        .error (.refused (.badCommand versionCommand))
      else
        let (familyTransport, c) ← orMissing short c.u8
        match servedProtocol? familyTransport with
        | none => .error (.refused (.badFamilyTransport familyTransport))
        | some (family, transport) =>
          let (declared, _) ← orMissing short c.u16
          measure buf.length family transport declared.toNat

/-- Decodes an address block. -/
def decode (family : Family) (block : Bytes) : Except Stop Addresses :=
  orMissing (.shortRead (preambleLength + family.blockLength) (preambleLength + block.length))
    (Addresses.read? family (Reader.ofBytes block preambleLength))

/-- Reads the header at the front of the received bytes. -/
def read (buf : Bytes) : Except Stop Info := do
  let p ← readPreamble buf
  let short := .shortRead p.totalLength buf.length
  let block ← orMissing short (part? buf preambleLength p.extensionsOffset)
  let addresses ← decode p.family block
  let (extensions, notes) ←
    if 0 < p.extensionsLength then do
      let region ← orMissing short (part? buf p.extensionsOffset buf.length)
      readAll p.extensionsLength (.ofBytes region p.extensionsOffset)
    else .ok ([], [])
  .ok ⟨p, addresses, extensions,
    p.warning?.toList ++ Info.addressAnomalies addresses ++ notes⟩

/-! ## No guard fires -/

theorem readSubExtensions_step (c : Cursor) : readSubExtensions c = c.remaining.bind fun left =>
    if left = 0 then .ok ([], [])
    else c.record.bind fun (record, c') => (readSubExtensions c').bind fun (subs, notes) =>
      match SubKind.ofCode? record.code with
      | some kind => .ok (⟨kind, record.offset, record.payload⟩ :: subs, notes)
      | none => .ok (subs, .unknownSubtype record.offset record.code :: notes) := by
  rw [readSubExtensions]
  refine bind_congr fun left => ?_
  split
  · rfl
  · split
    next s hs => simp only [hs, Except.bind]
    next record c' hc =>
      simp only [hc]
      rfl

end Guarded

theorem SslInfo.readSubExtensions_step (r : Reader) : readSubExtensions r =
    if r.rest = [] then .done []
    else
      match r.record with
      | .error e => .fail e
      | .ok (record, r') =>
        match SubKind.ofCode? record.code with
        | some kind => (readSubExtensions r').map (⟨kind, record.offset, record.payload⟩ :: ·)
        | none => (readSubExtensions r').noting (.unknownSubtype record.offset record.code) := by
  rw [readSubExtensions]
  simp only [List.isEmpty_iff]
  split
  · rfl
  · split
    next e he => simp only [he]
    next record r' hr =>
      cases hk : SubKind.ofCode? record.code with
      | none => simp only [hr, hk]
      | some kind => simp only [hr, hk]

namespace Guarded

theorem readSubExtensions_eq (c : Cursor) (hle : c.position ≤ c.buf.length) :
    readSubExtensions c = (SslInfo.readSubExtensions c.reader).outcome := by
  -- each record leaves less of the buffer, and the cursor not past its end
  induction hn : c.buf.length - c.position using Nat.strongRecOn generalizing c with
  | ind n ih =>
    rw [readSubExtensions_step, SslInfo.readSubExtensions_step, Cursor.remaining_of_le hle]
    simp only [Except.bind, List.length_eq_zero_iff]
    by_cases hnil : c.reader.rest = []
    · rw [if_pos hnil, if_pos hnil]
      rfl
    · rw [if_neg hnil, if_neg hnil]
      rcases Cursor.record_cases hle with ⟨e, hc, hr⟩ | ⟨record, c', hc, hr, hle'⟩
      · rw [hc, hr]
        rfl
      · have hrest := ih _ (hn ▸ Cursor.lt_of_record hc) c' hle' rfl
        rw [hc, hr]
        simp only [hrest]
        cases SubKind.ofCode? record.code with
        | none => exact (Walk.outcome_noting _ _).symm
        | some kind => exact (Walk.outcome_map _ _).symm

theorem readSsl_eq (value : Bytes) (base : Nat) :
    readSsl value base = (SslInfo.read value base).outcome := by
  rw [readSsl]
  rcases Nat.lt_or_ge value.length SslInfo.headerLength with hlt | hge
  · rw [if_pos hlt, SslInfo.read_of_short hlt]
    rfl
  · obtain ⟨client, verify, rest, rfl⟩ := SslInfo.exists_eq_cons_append hge
    rw [if_neg (Nat.not_lt.mpr hge), SslInfo.read_cons_append, Walk.outcome_map]
    generalize hvalue : client :: (BigEndian.bytes32 verify ++ rest) = value
    have hclient : (Cursor.ofBytes value base).u8 = some (client, ⟨value, base, 1⟩) :=
      Cursor.u8_of_drop_eq (c := .ofBytes value base) hvalue.symm
    have hverify : Cursor.u32 ⟨value, base, 1⟩ = some (verify, ⟨value, base, 5⟩) := by
      have h := Cursor.u32_of_drop_eq (c := ⟨value, base, 1⟩) (by rw [← hvalue]; rfl)
      rwa [BigEndian.word32_bytes32] at h
    have hrest := readSubExtensions_eq ⟨value, base, 5⟩ (by rw [← hvalue]; simp)
    have hreader : Cursor.reader ⟨value, base, 5⟩ = ⟨base, SslInfo.headerLength, rest⟩ := by
      rw [← hvalue]
      rfl
    simp only [hclient, hverify, orMissing, bind, Except.bind, hrest, hreader]

theorem ofRecord_eq (record : Record) :
    ofRecord record = (Extension.ofRecord record).outcome := by
  rw [ofRecord, Extension.ofRecord]
  cases ExtensionKind.ofCode record.code with
  | ssl =>
    simp only [readSsl_eq, Walk.outcome_map]
    rfl
  | unknown code => rfl
  | alpn => rfl
  | authority => rfl

theorem readAll_step (expected : Nat) (c : Cursor) : readAll expected c =
    if expected ≤ c.position then .ok ([], [])
    else (minus expected c.position).bind fun left =>
      if left < recordHeaderLength then .error (.refused (.truncated c.offset left))
      else c.record.bind fun (record, c') =>
        if expected < c'.position then .error (.refused (.bufferOverrun c'.position expected))
        else (ofRecord record).bind fun (e, notes) =>
          (readAll expected c').bind fun (es, more) => .ok (e :: es, notes ++ more) := by
  rw [readAll]
  split
  · rfl
  · refine bind_congr fun left => ?_
    split
    · rfl
    · split
      next s hs => simp only [hs, Except.bind]
      next record c' hc =>
      simp only [hc]
      rfl

end Guarded

theorem Extension.readAll_step (expected : Nat) (r : Reader) : readAll expected r =
    if expected ≤ r.consumed then .done []
    else if expected - r.consumed < recordHeaderLength then
      .fail (.truncated r.offset (expected - r.consumed))
    else
      match r.record with
      | .error e => .fail e
      | .ok (record, r') =>
        if expected < r'.consumed then .fail (.bufferOverrun r'.consumed expected)
        else (ofRecord record).andThen fun e => (readAll expected r').map (e :: ·) := by
  rw [readAll]
  split
  · rfl
  · split
    · rfl
    · split
      next e he => simp only [he]
      next record r' hr => simp only [hr]

namespace Guarded

theorem readAll_eq (expected : Nat) (c : Cursor) (hle : c.position ≤ c.buf.length) :
    readAll expected c = (Extension.readAll expected c.reader).outcome := by
  induction hn : c.buf.length - c.position using Nat.strongRecOn generalizing c with
  | ind n ih =>
    rw [readAll_step, Extension.readAll_step]
    by_cases hend : expected ≤ c.position
    · rw [if_pos hend, if_pos (show expected ≤ c.reader.consumed from hend)]
      rfl
    · rw [if_neg hend, if_neg (show ¬ expected ≤ c.reader.consumed from hend),
        minus_of_le (Nat.le_of_not_le hend)]
      by_cases hshort : expected - c.position < recordHeaderLength
      · rw [if_pos (show expected - c.reader.consumed < _ from hshort)]
        exact if_pos hshort
      · rw [if_neg (show ¬ expected - c.reader.consumed < _ from hshort)]
        refine (if_neg hshort).trans ?_
        rcases Cursor.record_cases hle with ⟨e, hc, hr⟩ | ⟨record, c', hc, hr, hle'⟩
        · rw [hc, hr]
          rfl
        · have hrest := ih _ (hn ▸ Cursor.lt_of_record hc) c' hle' rfl
          rw [hc, hr]
          by_cases hover : expected < c'.position
          · simp only [Except.bind, if_pos hover]
            rw [if_pos (show expected < c'.reader.consumed from hover)]
            rfl
          · simp only [Except.bind, if_neg hover]
            rw [if_neg (show ¬ expected < c'.reader.consumed from hover), Walk.outcome_andThen,
              ofRecord_eq]
            simp only [Walk.outcome_map, hrest]
            cases (Extension.ofRecord record).outcome with
            | error s => rfl
            | ok found =>
              cases (Extension.readAll expected c'.reader).outcome <;> rfl

theorem measure_eq (received : Nat) (f : Family) (t : Transport) (declared : Nat) :
    measure received f t declared = guarded
      (if declared < f.blockLength then .error (.lengthMismatch declared f.blockLength)
      else if received < declared + preambleLength then
        .error (.shortRead (declared + preambleLength) received)
      else .ok ⟨.proxy, f, t, f.blockLength, declared - f.blockLength⟩) := by
  rw [measure]
  split
  · rfl
  next hroom =>
    rw [minus_of_le (Nat.le_of_not_lt hroom)]
    split
    · rfl
    · rfl

theorem readPreamble_eq (buf : Bytes) : readPreamble buf = guarded (Preamble.read buf) := by
  rw [readPreamble]
  rcases Nat.lt_or_ge buf.length preambleLength with hlt | hge
  · rw [if_pos hlt, Preamble.read, if_pos hlt]
    rfl
  · have h₁₆ : preambleLength = 16 := rfl
    have hfront : (Cursor.ofBytes buf 0).take signature.length =
        some (buf.take signature.length, ⟨buf, 0, 12⟩) := by
      have h := Cursor.take_of_drop_eq (c := .ofBytes buf 0) (Nat.zero_le _)
        (List.take_append_drop signature.length buf).symm
      rwa [List.length_take, Nat.min_eq_left (Nat.le_trans (by decide) hge)] at h
    have hbyte : ∀ {n : Nat}, n < buf.length →
        Cursor.u8 ⟨buf, 0, n⟩ = some (byteAt buf n, ⟨buf, 0, n + 1⟩) := fun hn =>
      Cursor.u8_of_drop_eq (drop_eq_byteAt_cons hn)
    have hdeclared : Cursor.u16 ⟨buf, 0, 14⟩ =
        some (BigEndian.word16 (byteAt buf 14) (byteAt buf 15), ⟨buf, 0, 16⟩) := by
      have hdrop : buf.drop 14 = byteAt buf 14 :: byteAt buf 15 :: buf.drop 16 := by
        rw [drop_eq_byteAt_cons (by omega), drop_eq_byteAt_cons (by omega)]
      exact Cursor.u16_of_drop_eq hdrop
    rw [if_neg (Nat.not_lt.mpr hge), Preamble.read_of_le hge]
    simp only [hfront, hbyte (show 12 < buf.length by omega),
      hbyte (show 13 < buf.length by omega), hdeclared, orMissing, bind, Except.bind,
      Preamble.check, declaredLength]
    split
    · rfl
    · split
      · rfl
      · split
        · rfl
        · split
          · rfl
          · rcases servedProtocol? (byteAt buf 13) with _ | ⟨f, t⟩
            · rfl
            · exact measure_eq buf.length f t (declaredLength buf)

theorem decode_of_eq_ok {family : Family} {block : Bytes} {a : Addresses}
    (h : Addresses.decode family block = .ok a) : decode family block = .ok a := by
  unfold Addresses.decode at h
  split at h
  next b hb =>
    rw [decode, hb, ← Except.ok.inj h]
    rfl
  next => simp at h

/-- Guarded reading answers as `Info.read` does, so that no guard fires. -/
theorem read_eq (buf : Bytes) : read buf = guarded (Info.read buf) := by
  rw [read, readPreamble_eq]
  cases hp : Preamble.read buf with
  | error e =>
    rw [Info.read, hp]
    rfl
  | ok p =>
    have hle := Preamble.totalLength_le_of_read hp
    have hoffset := p.extensionsOffset_le_totalLength
    have hblock : part? buf preambleLength p.extensionsOffset = some (p.block buf) :=
      part?_of_le (Nat.le_add_right _ _) (Nat.le_trans hoffset hle)
    have hregion : part? buf p.extensionsOffset buf.length =
        some (buf.drop p.extensionsOffset) := by
      rw [part?_of_le (Nat.le_trans hoffset hle) (Nat.le_refl _), List.extract_eq_take_drop,
        ← List.length_drop, List.take_length]
    obtain ⟨a, ha⟩ := Preamble.exists_decode_of_read hp
    have haddresses := decode_of_eq_ok ha
    have hwalk : readAll p.extensionsLength
        (.ofBytes (buf.drop p.extensionsOffset) p.extensionsOffset) =
          (Info.walk p buf).outcome := readAll_eq _ _ (Nat.zero_le _)
    rw [Info.read_of_decode hp ha]
    simp only [bind, Except.bind, guarded, hblock, hregion, orMissing, haddresses, hwalk]
    by_cases hnone : 0 < p.extensionsLength
    · rw [if_pos hnone, Walk.outcome]
      cases (Info.walk p buf).result <;> rfl
    · -- where no records are declared, the walk is over before it starts
      have hdone : Info.walk p buf = .done [] :=
        Extension.readAll_of_le (Nat.le_of_not_lt hnone)
      rw [if_neg hnone, hdone]
      rfl

end Guarded

end ProxyHeader
