import ProxyHeader.Error

/-!
# The preamble

Sixteen bytes open a header: a signature of twelve, a byte for version and command, a
byte for family and transport, and the declared length of all that follows, which is
the address block and then the extension records.

`Preamble.read` accepts exactly the preambles of relayed connections over the served
families and transports whose declared bytes have all been received. Its checks run in
wire order and the first that fails names the error, so the sixteen bytes and the
number of bytes received decide the answer.
-/

namespace ProxyHeader

/-! ## Constants of the format -/

/-- The twelve bytes that open a version-2 header. -/
def signature : Bytes :=
  [0x0D, 0x0A, 0x0D, 0x0A, 0x00, 0x0D, 0x0A, 0x51, 0x55, 0x49, 0x54, 0x0A]

/-- How a version-1 header for a TCP connection opens: `PROXY TCP` in ASCII. -/
def textOpening : Bytes :=
  [0x50, 0x52, 0x4F, 0x58, 0x59, 0x20, 0x54, 0x43, 0x50]

/-- The length of the preamble. -/
def preambleLength : Nat := 16

/-- The most bytes that a header is read from. -/
def maxHeaderLength : Nat := 536

/-- The version that the high half of the 13th byte names. -/
def version : UInt8 := 0x2

/-! ## Validation -/

/-- What an accepted preamble says. -/
structure Preamble where
  command : Command
  family : Family
  transport : Transport
  /-- The length of the address block. -/
  blockLength : Nat
  /-- The length of all extension records together. -/
  extensionsLength : Nat
  deriving Repr, DecidableEq

/-- The family and transport that the 14th byte names, if they are served ones. -/
def servedProtocol? (byte : UInt8) : Option (Family × Transport) :=
  match Family.ofNibble? (byte >>> 4), Transport.ofNibble? (byte &&& 0x0F) with
  | some .unspec, _ | _, some .unspec => none
  | some family, some transport => some (family, transport)
  | _, _ => none

namespace Preamble

/-- The length of the whole header. -/
def totalLength (p : Preamble) : Nat :=
  preambleLength + p.blockLength + p.extensionsLength

/-- The name of the protocol of the relayed connection. -/
def protocol (p : Preamble) : String :=
  protocolName p.family p.transport

/-- The finding that an accepted preamble gives rise to: datagrams are not served. -/
def warning? (p : Preamble) : Option Anomaly :=
  match p.transport with
  | .datagram => some (.unsupportedTransport p.family p.transport)
  | _ => none

/-- The checks on the last four bytes of the preamble, given how many bytes were
received. -/
def check (received : Nat) (versionCommand familyTransport : UInt8) (declared : Nat) :
    Except HeaderError Preamble :=
  if versionCommand >>> 4 ≠ version then
    .error (.badVersion versionCommand)
  else if Command.ofNibble? (versionCommand &&& 0x0F) ≠ some .proxy then
    .error (.badCommand versionCommand)
  else
    match servedProtocol? familyTransport with
    | none => .error (.badFamilyTransport familyTransport)
    | some (family, transport) =>
      if declared < family.blockLength then
        .error (.lengthMismatch declared family.blockLength)
      else if received < declared + preambleLength then
        .error (.shortRead (declared + preambleLength) received)
      else
        .ok ⟨.proxy, family, transport, family.blockLength, declared - family.blockLength⟩

/-- Validates the preamble at the front of the received bytes. -/
def read (buf : Bytes) : Except HeaderError Preamble :=
  if buf.length < preambleLength then
    .error (.shortRead preambleLength buf.length)
  else if textOpening.isPrefixOf buf then
    .error .textHeader
  else if buf.take signature.length ≠ signature then
    .error .badSignature
  else
    match buf.drop signature.length with
    | versionCommand :: familyTransport :: high :: low :: _ =>
      check buf.length versionCommand familyTransport (BigEndian.word16 high low).toNat
    | _ => .error (.shortRead preambleLength buf.length)

end Preamble

end ProxyHeader
