import ProxyHeader.AddressBlock
import ProxyHeader.Extension.Walk

/-!
# Reading a whole header

`Info.read` validates the preamble, decodes the address block and walks the extension
records. Bytes after the declared length belong to the relayed stream; they are ignored
but for one thing, that a record may be found to run past the declared length rather
than past what was received.

The anomalies of an accepted header are listed in wire order: those of the preamble, of
the address block, and of the records.
-/

namespace ProxyHeader

/-- Everything that an accepted header says. -/
structure Info where
  preamble : Preamble
  addresses : Addresses
  extensions : List Extension
  anomalies : List Anomaly
  deriving Repr, DecidableEq

namespace Info

/-! ## Accessors -/

/-- The endpoint that opened the connection. -/
def client? (i : Info) : Option Endpoint :=
  i.addresses.endpoints?.map (·.1)

/-- The endpoint that the client connected to. -/
def server? (i : Info) : Option Endpoint :=
  i.addresses.endpoints?.map (·.2)

/-- The first extension of a kind. -/
def find? (kind : ExtensionKind) (i : Info) : Option Extension :=
  i.extensions.find? (·.kind = kind)

/-- The application protocol, as sent. -/
def alpn? (i : Info) : Option Bytes :=
  (i.find? .alpn).map (·.payload)

/-- The host name asked for, as sent. -/
def authority? (i : Info) : Option Bytes :=
  (i.find? .authority).map (·.payload)

/-- What is known of the TLS session. -/
def ssl? (i : Info) : Option SslInfo :=
  (i.find? .ssl).bind (·.ssl?)

/-- Whether the connection is of a kind that is served. -/
def isSupported (i : Info) : Bool :=
  !i.anomalies.any (·.isUnsupported)

/-! ## Reading -/

/-- The anomaly that an address block gives rise to: socket paths are not shown. -/
def addressAnomalies : Addresses → List Anomaly
  | .unix => [.unixAddress]
  | _ => []

/-- Reads the header at the front of the received bytes. -/
def read (buf : Bytes) : Except HeaderError Info := do
  let preamble ← Preamble.read buf
  let body := buf.drop preambleLength
  let addresses ← Addresses.decode preamble.family (body.take preamble.blockLength)
  let walk := Extension.walk (body.drop preamble.blockLength) preamble.extensionsLength
    (preambleLength + preamble.blockLength)
  let extensions ← walk.result
  return ⟨preamble, addresses, extensions,
    preamble.warning?.toList ++ addressAnomalies addresses ++ walk.anomalies⟩

/-- Whether a connection with this header is served. -/
def accepts : Except HeaderError Info → Bool
  | .ok i => i.isSupported
  | .error _ => false

/-- The bytes declared to be extension records, for an error that is about them. -/
def extensionBytes? (e : HeaderError) (buf : Bytes) : Option Bytes :=
  if e.isExtensionError then
    match Preamble.read buf with
    | .ok p => some ((buf.take p.totalLength).drop (preambleLength + p.blockLength))
    | .error _ => none
  else none

end Info

end ProxyHeader
