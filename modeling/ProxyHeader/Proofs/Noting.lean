import ProxyHeader.Proofs.Guard

/-!
# One list of anomalies

A `Walk` gives the anomalies that it met. Here the walks are written the other way round:
there is a list of anomalies from the start, each anomaly is put at its end as it is met,
and the list is there whether reading succeeds or fails (`Noting`). The extensions read so
far are carried along and given at the end.

Both ways come to the same: what a walk met stands at the end of the list, and its result
is that of the walk (`Noting.walk_eq`). For this, `Noting.ofWalk` turns walks into programs
on a list, step by step.
-/

namespace ProxyHeader

/-- Reading with a list of anomalies at hand, which outlives a failure. -/
abbrev Noting := ExceptT HeaderError (StateM (List Anomaly))

namespace Noting

variable {α β : Type}

/-- Runs a program on a list of anomalies. -/
def run (x : Noting α) (notes : List Anomaly) : Except HeaderError α × List Anomaly :=
  StateT.run (ExceptT.run x) notes

/-- Puts an anomaly at the end of the list. -/
def note (a : Anomaly) : Noting Unit :=
  modify (· ++ [a])

/-! ## The walks -/

/-- Reads records up to the end of the value, after `kept` versions and ciphers. -/
def readSubExtensions (kept : List SubExtension) (r : Reader) : Noting (List SubExtension) :=
  if r.rest.isEmpty then return kept
  else
    match h : r.record with
    | .error e => throw e
    | .ok (record, r') =>
      have := Reader.length_rest_of_record h
      match SubKind.ofCode? record.code with
      | some kind => readSubExtensions (kept ++ [⟨kind, record.offset, record.payload⟩]) r'
      | none => do
        note (.unknownSubtype record.offset record.code)
        readSubExtensions kept r'
termination_by r.rest.length

/-- Reads a TLS value whose first byte has offset `base`. -/
def readSsl (value : Bytes) (base : Nat) : Noting SslInfo :=
  match (Reader.ofBytes value base).u8 with
  | none => throw (.truncated base value.length)
  | some (client, r) =>
    match r.u32 with
    | none => throw (.truncated base value.length)
    | some (verify, r) => do
      let subs ← readSubExtensions [] r
      return ⟨client, verify, subs⟩

/-- Decodes one record. -/
def ofRecord (record : Record) : Noting Extension :=
  match ExtensionKind.ofCode record.code with
  | .ssl => do
    let ssl ← readSsl record.payload (record.offset + recordHeaderLength)
    return ⟨.ssl, record.offset, record.payload, some ssl⟩
  | .unknown code => do
    note (.unknownExtension record.offset code)
    return ⟨.unknown code, record.offset, record.payload, none⟩
  | kind => return ⟨kind, record.offset, record.payload, none⟩

/-- Reads records until `expected` bytes are consumed, after those `found`. -/
def readAll (expected : Nat) (found : List Extension) (r : Reader) : Noting (List Extension) :=
  if expected ≤ r.consumed then return found
  else if expected - r.consumed < recordHeaderLength then
    throw (.truncated r.offset (expected - r.consumed))
  else
    match h : r.record with
    | .error e => throw e
    | .ok (record, r') =>
      have := Reader.length_rest_of_record h
      if expected < r'.consumed then throw (.bufferOverrun r'.consumed expected)
      else do
        let e ← ofRecord record
        readAll expected (found ++ [e]) r'
termination_by r.rest.length

/-- Walks a region that starts at offset `base` and of which `expected` bytes are
declared to be records. Offsets are natural numbers: they are those that are counted in words of
64 bits as long as `base` and the length of the region together stay below `2 ^ 64`. -/
def walk (region : Bytes) (expected base : Nat) : Noting (List Extension) :=
  readAll expected [] (Reader.ofBytes region base)

/-! ## Walks as programs -/

/-- Has the result of a walk, and puts what it met at the end of the list. -/
def ofWalk (w : Walk α) : Noting α :=
  ExceptT.mk fun notes => (w.result, notes ++ w.anomalies)

theorem run_ofWalk (w : Walk α) (notes : List Anomaly) :
    (ofWalk w).run notes = (w.result, notes ++ w.anomalies) :=
  rfl

theorem ofWalk_done (a : α) : ofWalk (.done a) = pure a := by
  funext notes
  exact Prod.ext rfl (List.append_nil notes)

theorem ofWalk_fail (e : HeaderError) : ofWalk (.fail e : Walk α) = throw e := by
  funext notes
  exact Prod.ext rfl (List.append_nil notes)

theorem ofWalk_noting (a : Anomaly) (w : Walk α) :
    ofWalk (w.noting a) = note a >>= fun _ => ofWalk w := by
  funext notes
  exact Prod.ext rfl (List.append_cons notes a w.anomalies)

theorem ofWalk_map (f : α → β) (w : Walk α) : ofWalk (w.map f) = f <$> ofWalk w := by
  obtain ⟨_ | _, met⟩ := w <;> rfl

theorem ofWalk_andThen (w : Walk α) (f : α → Walk β) :
    ofWalk (w.andThen f) = ofWalk w >>= fun a => ofWalk (f a) := by
  obtain ⟨_ | a, met⟩ := w
  · rfl
  · funext notes
    exact Prod.ext rfl (List.append_assoc notes met (f a).anomalies).symm

/-! ## Both ways come to the same -/

theorem readSubExtensions_eq (kept : List SubExtension) (r : Reader) :
    readSubExtensions kept r = ofWalk ((SslInfo.readSubExtensions r).map (kept ++ ·)) := by
  -- each record leaves fewer bytes, and may add to what is kept
  induction hn : r.rest.length using Nat.strongRecOn generalizing kept r with
  | ind n ih =>
    rw [readSubExtensions, SslInfo.readSubExtensions_step]
    by_cases hnil : r.rest = []
    · rw [if_pos (List.isEmpty_iff.mpr hnil), if_pos hnil, ofWalk_map, ofWalk_done]
      simp
    · rw [if_neg (mt List.isEmpty_iff.mp hnil), if_neg hnil]
      split
      next e he =>
        simp only [he]
        exact (ofWalk_fail e).symm
      next record r' hr =>
        have hrest := fun kept => ih _ (hn ▸ Reader.length_rest_of_record hr) kept r' rfl
        simp only [hr]
        cases SubKind.ofCode? record.code with
        | none =>
          simp only [hrest, ofWalk_map, ofWalk_noting, map_bind]
        | some kind =>
          simp only [hrest, ofWalk_map, Functor.map_map, List.append_assoc, List.singleton_append]

theorem readSsl_eq (value : Bytes) (base : Nat) :
    readSsl value base = ofWalk (SslInfo.read value base) := by
  rw [readSsl, SslInfo.read]
  cases (Reader.ofBytes value base).u8 with
  | none => exact (ofWalk_fail _).symm
  | some front =>
    obtain ⟨client, r⟩ := front
    dsimp only
    cases r.u32 with
    | none => exact (ofWalk_fail _).symm
    | some front =>
      obtain ⟨verify, r⟩ := front
      simp only [readSubExtensions_eq, ofWalk_map, List.nil_append, id_map', bind_pure_comp]

theorem ofRecord_eq (record : Record) : ofRecord record = ofWalk (Extension.ofRecord record) := by
  rw [ofRecord, Extension.ofRecord]
  cases ExtensionKind.ofCode record.code with
  | alpn => exact (ofWalk_done _).symm
  | authority => exact (ofWalk_done _).symm
  | ssl => simp only [readSsl_eq, ofWalk_map, bind_pure_comp]
  | unknown code => simp only [ofWalk_noting, ofWalk_done]

theorem readAll_eq (expected : Nat) (found : List Extension) (r : Reader) :
    readAll expected found r = ofWalk ((Extension.readAll expected r).map (found ++ ·)) := by
  induction hn : r.rest.length using Nat.strongRecOn generalizing found r with
  | ind n ih =>
    rw [readAll, Extension.readAll_step]
    by_cases hend : expected ≤ r.consumed
    · rw [if_pos hend, if_pos hend, ofWalk_map, ofWalk_done]
      simp
    · rw [if_neg hend, if_neg hend]
      by_cases hshort : expected - r.consumed < recordHeaderLength
      · rw [if_pos hshort, if_pos hshort]
        exact (ofWalk_fail _).symm
      · rw [if_neg hshort, if_neg hshort]
        split
        next e he =>
          simp only [he]
          exact (ofWalk_fail e).symm
        next record r' hr =>
          have hrest := fun found => ih _ (hn ▸ Reader.length_rest_of_record hr) found r' rfl
          simp only [hr]
          by_cases hover : expected < r'.consumed
          · rw [if_pos hover, if_pos hover]
            exact (ofWalk_fail _).symm
          · rw [if_neg hover, if_neg hover]
            simp only [hrest, ofRecord_eq, ofWalk_map, ofWalk_andThen, map_bind, Functor.map_map,
              List.append_assoc, List.singleton_append]

/-- A walk on a list of anomalies has the result of the walk, and leaves what that met at
the end of the list. -/
theorem walk_eq (region : Bytes) (expected base : Nat) :
    walk region expected base = ofWalk (Extension.walk region expected base) := by
  rw [walk, readAll_eq, ofWalk_map]
  simp only [List.nil_append, id_map', Extension.walk]

theorem run_walk (region : Bytes) (expected base : Nat) (notes : List Anomaly) :
    (walk region expected base).run notes = ((Extension.walk region expected base).result,
      notes ++ (Extension.walk region expected base).anomalies) := by
  rw [walk_eq, run_ofWalk]

end Noting

end ProxyHeader
