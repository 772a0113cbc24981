import ProxyHeader.Extension
import ProxyHeader.Extension.Record

/-!
# Walking the extension records

The records are read one after the other until the declared length is used up. Each has
to start, with its type code and length, inside the declared length; its value is
looked for among all received bytes, and only then is the end of the record held
against the declared length.

A walk ends in a list of extensions or in the error of the first record that is not
well formed. Either way it keeps the anomalies met before it ended, in wire order, so a
walk can only add to what was found earlier.
-/

namespace ProxyHeader

/-! ## Outcomes -/

/-- How reading ended, and what was odd about all that was read. -/
structure Walk (α : Type) where
  result : Except HeaderError α
  anomalies : List Anomaly
  deriving Repr

namespace Walk

variable {α β : Type}

/-- Nothing was read and `a` is the result. -/
def done (a : α) : Walk α :=
  ⟨.ok a, []⟩

/-- Nothing could be read. -/
def fail (e : HeaderError) : Walk α :=
  ⟨.error e, []⟩

/-- Reading met an anomaly before the rest of the walk. -/
def noting (a : Anomaly) (w : Walk α) : Walk α :=
  ⟨w.result, a :: w.anomalies⟩

/-- The walk with its result changed. -/
def map (f : α → β) (w : Walk α) : Walk β :=
  ⟨w.result.map f, w.anomalies⟩

/-- Goes on after a successful walk; after a failed one nothing is read. -/
def andThen (w : Walk α) (f : α → Walk β) : Walk β :=
  match w.result with
  | .ok a => ⟨(f a).result, w.anomalies ++ (f a).anomalies⟩
  | .error e => ⟨.error e, w.anomalies⟩

end Walk

/-! ## Inside a TLS value -/

namespace SslInfo

/-- The bytes of a TLS value before its records: flags and verification result. -/
def headerLength : Nat := 5

/-- Reads records up to the end of the value, keeping versions and ciphers. -/
def readSubExtensions (r : Reader) : Walk (List SubExtension) :=
  if r.rest.isEmpty then .done []
  else
    match h : r.record with
    | .error e => .fail e
    | .ok (record, r') =>
      have := Reader.length_rest_of_record h
      match SubKind.ofCode? record.code with
      | some kind => (readSubExtensions r').map (⟨kind, record.offset, record.payload⟩ :: ·)
      | none => (readSubExtensions r').noting (.unknownSubtype record.offset record.code)
termination_by r.rest.length

/-- Reads a TLS value whose first byte has offset `base`. -/
def read (value : Bytes) (base : Nat) : Walk SslInfo :=
  match (Reader.ofBytes value base).u8 with
  | none => .fail (.truncated base value.length)
  | some (client, r) =>
    match r.u32 with
    | none => .fail (.truncated base value.length)
    | some (verify, r) => (readSubExtensions r).map fun subs => ⟨client, verify, subs⟩

end SslInfo

/-! ## After the address block -/

namespace Extension

/-- Decodes one record. -/
def ofRecord (record : Record) : Walk Extension :=
  match ExtensionKind.ofCode record.code with
  | .ssl =>
    (SslInfo.read record.payload (record.offset + recordHeaderLength)).map fun ssl =>
      ⟨.ssl, record.offset, record.payload, some ssl⟩
  | .unknown code =>
    (Walk.done ⟨.unknown code, record.offset, record.payload, none⟩).noting
      (.unknownExtension record.offset code)
  | kind => .done ⟨kind, record.offset, record.payload, none⟩

/-- Reads records until `expected` bytes are consumed. -/
def readAll (expected : Nat) (r : Reader) : Walk (List Extension) :=
  if expected ≤ r.consumed then .done []
  else if expected - r.consumed < recordHeaderLength then
    .fail (.truncated r.offset (expected - r.consumed))
  else
    match h : r.record with
    | .error e => .fail e
    | .ok (record, r') =>
      have := Reader.length_rest_of_record h
      if expected < r'.consumed then .fail (.bufferOverrun r'.consumed expected)
      else (ofRecord record).andThen fun e => (readAll expected r').map (e :: ·)
termination_by r.rest.length

/-- Walks a region that starts at offset `base` and of which `expected` bytes are
declared to be records. -/
def walk (region : Bytes) (expected base : Nat) : Walk (List Extension) :=
  readAll expected (Reader.ofBytes region base)

end Extension

end ProxyHeader
