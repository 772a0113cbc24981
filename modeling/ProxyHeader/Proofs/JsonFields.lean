import Mathlib.Data.Nat.Bitwise
import ProxyHeader.Proofs.JsonGrammar
import ProxyHeader.Report

/-!
# The fields of JSON reports

`Report.fields` and `Report.errorFields` are what a JSON report has to say of a header and of
a refusal, field by field and in order. A report is a JSON text of the object with these fields
and of no other value (`Report.readsAs_fields`), whatever bytes the values of extensions are.
So no value can end a string early or add a field, and where a field is optional it is there
exactly if what it shows is.
-/

namespace ProxyHeader

namespace Report

/-! ## What a report has to say -/

/-- The fields for a TLS session: each of the three flags is a bit of the first byte. -/
def sslFields (s : SslInfo) : List (String × Json) :=
  [("client", .number s.client.toNat),
    ("verify", .number s.verify.toNat),
    ("client_ssl", .bool (s.client.toNat.testBit 0)),
    ("client_cert_conn", .bool (s.client.toNat.testBit 1)),
    ("client_cert_sess", .bool (s.client.toNat.testBit 2)),
    ("version", .ofText? s.version?),
    ("cipher", .ofText? s.cipher?)]

/-- The fields for an extension, the last of which is there if it has a TLS value. -/
def extensionFields (e : Extension) : List (String × Json) :=
  [("kind", .string e.kind.name),
    ("code", .number e.kind.code.toNat),
    ("offset", .number e.offset),
    ("length", .number e.payload.length),
    ("value", .string (Utf8.lossy e.payload))] ++
  match e.ssl? with
  | some s => [("ssl", .object (sslFields s))]
  | none => []

/-- The fields for the endpoints, which are null if they are not known. -/
def endpointFields : Option (Endpoint × Endpoint) → List (String × Json)
  | some (source, destination) =>
    [("source", .string source.text), ("destination", .string destination.text)]
  | none => [("source", .null), ("destination", .null)]

/-- The fields of the report of an accepted header. -/
def fields (i : Info) : List (String × Json) :=
  [("command", .string i.preamble.command.name),
    ("family", .string i.preamble.family.name),
    ("transport", .string i.preamble.transport.name),
    ("protocol", .string (protocolName i.preamble.family i.preamble.transport)),
    ("address_block_len", .number i.preamble.blockLength),
    ("extensions_len", .number i.preamble.extensionsLength)] ++
  endpointFields i.addresses.endpoints? ++
  [("extensions", .array (i.extensions.map fun e => .object (extensionFields e))),
    ("anomalies", .array (i.anomalies.map fun a => .string a.message)),
    ("supported", .bool (i.anomalies.all fun a => !a.isUnsupported))]

/-- The fields of the report of a refusal, the last of which is there if a record was at
fault. -/
def errorFields (e : HeaderError) (buf : Bytes) : List (String × Json) :=
  [("error", .string e.kind), ("message", .string e.message)] ++
  match Info.extensionBytes? e buf with
  | some bytes => [("data", .array (bytes.map fun b => .number b.toNat))]
  | none => []

/-! ## What a report says -/

/-- A flag of one bit is set exactly if that bit is. -/
theorem and_flag_ne_zero {b flag : UInt8} {k : Nat} (hflag : flag.toNat = 2 ^ k) :
    (b &&& flag != 0) = b.toNat.testBit k := by
  have hzero : (b &&& flag != 0) = true ↔ b.toNat &&& 2 ^ k ≠ 0 := by
    rw [bne_iff_ne, ne_eq, ← UInt8.toNat_inj, UInt8.toNat_and, hflag]
    rfl
  rw [Bool.eq_iff_iff, hzero, Nat.and_two_pow]
  cases b.toNat.testBit k <;> simp

theorem sslJson_eq (s : SslInfo) : sslJson s = .object (sslFields s) := by
  have hssl : s.clientSsl = s.client.toNat.testBit 0 := and_flag_ne_zero rfl
  have hconnection : s.clientCertConnection = s.client.toNat.testBit 1 := and_flag_ne_zero rfl
  have hsession : s.clientCertSession = s.client.toNat.testBit 2 := and_flag_ne_zero rfl
  rw [sslJson, hssl, hconnection, hsession, sslFields]

theorem extensionJson_eq (e : Extension) : extensionJson e = .object (extensionFields e) := by
  rw [extensionJson, extensionFields]
  cases e.ssl? with
  | none => rfl
  | some s =>
    show Json.object (_ ++ [("ssl", sslJson s)]) = _
    rw [sslJson_eq]
    rfl

theorem json_eq (i : Info) : json i = .object (fields i) := by
  have hextensions : i.extensions.map extensionJson =
      i.extensions.map fun e => .object (extensionFields e) :=
    List.map_congr_left fun e _ => extensionJson_eq e
  have hsupported : i.isSupported = i.anomalies.all fun a => !a.isUnsupported := by
    rw [Info.isSupported, List.not_any_eq_all_not]
  rw [json, hextensions, hsupported, Info.client?, Info.server?, fields]
  cases i.addresses.endpoints? <;> rfl

theorem errorJson_eq (e : HeaderError) (buf : Bytes) :
    errorJson e buf = .object (errorFields e buf) := by
  rw [errorJson, errorFields]
  cases Info.extensionBytes? e buf <;> rfl

/-- The report of any header, made up or read, and of any refusal is a JSON text of the object
with the fields that it has to have, and of no other value. -/
theorem readsAs_fields :
    (∀ i : Info, Json.ReadsAs (json i).render (.object (fields i))) ∧
    ∀ (e : HeaderError) (buf : Bytes),
      Json.ReadsAs (errorJson e buf).render (.object (errorFields e buf)) := by
  refine ⟨fun i => ?_, fun e buf => ?_⟩
  · rw [← json_eq]
    exact Json.readsAs_render _
  · rw [← errorJson_eq]
    exact Json.readsAs_render _

end Report

end ProxyHeader
