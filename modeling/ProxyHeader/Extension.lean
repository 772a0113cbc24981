import ProxyHeader.Error
import ProxyHeader.Text.Utf8

/-!
# Extensions

After the address block a header may carry records: a type code, a length and a value
that is never empty. Three type codes are decoded: the application protocol agreed on
(ALPN), the host name asked for (authority), and what is known of the client's TLS
session. A TLS value is a byte of flags, a verification result and records of its own,
of which the protocol version and the cipher are kept.

The readers of a TLS session give the first record of a kind and look no further if its
text is not valid UTF-8.
-/

namespace ProxyHeader

/-! ## Kinds of record -/

/-- What a record holds. -/
inductive ExtensionKind where
  | alpn
  | authority
  | ssl
  | unknown (code : UInt8)
  deriving Repr, DecidableEq

namespace ExtensionKind

/-- The kind with a given type code. -/
def ofCode : UInt8 → ExtensionKind
  | 0x01 => alpn
  | 0x02 => authority
  | 0x20 => ssl
  | code => unknown code

/-- The type code of a kind. -/
def code : ExtensionKind → UInt8
  | alpn => 0x01
  | authority => 0x02
  | ssl => 0x20
  | unknown code => code

/-- The name a report gives a kind. -/
def name : ExtensionKind → String
  | alpn => "ALPN"
  | authority => "Authority"
  | ssl => "SSL"
  | unknown _ => "Unknown"

@[simp] theorem code_ofCode (b : UInt8) : (ofCode b).code = b := by
  unfold ofCode
  split <;> rfl

theorem ofCode_eq_ssl_iff {b : UInt8} : ofCode b = ssl ↔ b = ssl.code := by
  constructor
  · intro h
    rw [← code_ofCode b, h]
  · rintro rfl
    rfl

end ExtensionKind

/-- What a record inside a TLS value holds, of the two that are kept. -/
inductive SubKind where
  | version
  | cipher
  deriving Repr, DecidableEq

namespace SubKind

/-- The kind with a given type code, if it is one that is kept. -/
def ofCode? : UInt8 → Option SubKind
  | 0x21 => some version
  | 0x23 => some cipher
  | _ => none

/-- The type code of a kind. -/
def code : SubKind → UInt8
  | version => 0x21
  | cipher => 0x23

theorem ofCode?_eq_some_iff {b : UInt8} {k : SubKind} : ofCode? b = some k ↔ b = k.code := by
  unfold ofCode?
  split <;> cases k <;> simp_all [code]

end SubKind

/-! ## TLS session -/

/-- A record inside a TLS value. Its offset counts from the first byte received. -/
structure SubExtension where
  kind : SubKind
  offset : Nat
  payload : Bytes
  deriving Repr, DecidableEq

/-- What a TLS value says. -/
structure SslInfo where
  /-- Flags about the client, one bit each. -/
  client : UInt8
  /-- Zero if the client's certificate was verified. -/
  verify : UInt32
  subExtensions : List SubExtension
  deriving Repr, DecidableEq

namespace SslInfo

/-- The flag for a client that connected over TLS. -/
def flagSsl : UInt8 := 0x01

/-- The flag for a certificate shown on this connection. -/
def flagCertConnection : UInt8 := 0x02

/-- The flag for a certificate shown in this TLS session. -/
def flagCertSession : UInt8 := 0x04

/-- Whether the client connected over TLS. -/
def clientSsl (s : SslInfo) : Bool :=
  s.client &&& flagSsl != 0

/-- Whether the client showed a certificate on this connection. -/
def clientCertConnection (s : SslInfo) : Bool :=
  s.client &&& flagCertConnection != 0

/-- Whether the client showed a certificate in this session. -/
def clientCertSession (s : SslInfo) : Bool :=
  s.client &&& flagCertSession != 0

/-- The text of the first record of a kind, if that one is valid. -/
def text? (kind : SubKind) (s : SslInfo) : Option String :=
  (s.subExtensions.find? (·.kind = kind)).bind fun sub => Utf8.decode? sub.payload

/-- The protocol version, such as `TLSv1.3`. -/
def version? (s : SslInfo) : Option String :=
  s.text? .version

/-- The name of the cipher. -/
def cipher? (s : SslInfo) : Option String :=
  s.text? .cipher

end SslInfo

/-! ## Extension -/

/-- A record after the address block. Its offset counts from the first byte received. -/
structure Extension where
  kind : ExtensionKind
  offset : Nat
  payload : Bytes
  /-- The decoded value of a TLS record. -/
  ssl? : Option SslInfo
  deriving Repr, DecidableEq

namespace Extension

/-- The length of the value. -/
def length (e : Extension) : Nat :=
  e.payload.length

/-- The value as text, if it is valid. -/
def text? (e : Extension) : Option String :=
  Utf8.decode? e.payload

end Extension

end ProxyHeader
