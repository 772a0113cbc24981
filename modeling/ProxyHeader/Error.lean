import ProxyHeader.Protocol
import ProxyHeader.Text.Digits

/-!
# Why a header is refused, and what is odd about an accepted one

A `HeaderError` is the one reason a header is refused, with the byte or the counts that
show it. An `Anomaly` is a finding about a header that was read to its end: something
this library does not decode, or a use of the protocol it does not serve.

Each has a message for people. Errors also have a short kind for programs.
-/

namespace ProxyHeader

/-! ## Errors -/

/-- The reason a header is refused. Offsets count from the first byte received. -/
inductive HeaderError where
  /-- Fewer bytes were received than the header takes. -/
  | shortRead (expected actual : Nat)
  /-- The input opens like a version-1 header, which is a line of text. -/
  | textHeader
  /-- The first twelve bytes are not the version-2 signature. -/
  | badSignature
  /-- The high half of the 13th byte is not 2. -/
  | badVersion (byte : UInt8)
  /-- The low half of the 13th byte is not the command for a relayed connection. -/
  | badCommand (byte : UInt8)
  /-- The 14th byte names no family and transport that are served. -/
  | badFamilyTransport (byte : UInt8)
  /-- The declared length is below that of the family's address block. -/
  | lengthMismatch (declared blockLength : Nat)
  /-- Too few bytes are left at `offset` for a record to start. -/
  | truncated (offset remaining : Nat)
  /-- The record at `offset` is empty or runs past the received bytes. -/
  | overrun (offset : Nat) (kind : UInt8) (length : Nat)
  /-- The records run past the declared length. -/
  | bufferOverrun (consumed expected : Nat)
  deriving Repr, DecidableEq

namespace HeaderError

/-- The short name of an error. -/
def kind : HeaderError → String
  | shortRead .. => "short_read"
  | textHeader => "legacy_format_unsupported"
  | badSignature => "invalid_signature"
  | badVersion _ => "invalid_version"
  | badCommand _ => "invalid_command"
  | badFamilyTransport _ => "invalid_family_transport"
  | lengthMismatch .. => "length_mismatch"
  | truncated .. => "extension_truncated"
  | overrun .. => "extension_overrun"
  | bufferOverrun .. => "buffer_overrun"

/-- Whether the preamble was fine and an extension record was not. -/
def isExtensionError : HeaderError → Bool
  | truncated .. | overrun .. | bufferOverrun .. => true
  | _ => false

/-- Whether the command is the one for the proxy's own connections, which carry no
forwarded addresses. -/
def isLocal : HeaderError → Bool
  | badCommand byte => byte &&& 0x0F == Command.localCommand.nibble
  | _ => false

/-- The sentence that tells a person what is wrong. -/
def message : HeaderError → String
  | shortRead expected actual =>
    "too few bytes read: need " ++ Digits.decimal expected ++ ", got " ++ Digits.decimal actual
  | textHeader => "PROXY v1 text header is not supported"
  | badSignature => "not a valid PROXY v2 header"
  | badVersion byte => "13th byte has illegal version " ++ Digits.hexByte byte
  | badCommand byte =>
    if (badCommand byte).isLocal then "LOCAL connection carries no forwarded addresses"
    else "13th byte has illegal command " ++ Digits.hexByte byte
  | badFamilyTransport byte =>
    "14th byte has unsupported family/transport " ++ Digits.hexByte byte
  | lengthMismatch declared blockLength =>
    "declared length " ++ Digits.decimal declared ++ " does not leave room for " ++
      Digits.decimal blockLength ++ " address bytes"
  | truncated offset remaining =>
    "extension truncated at offset " ++ Digits.decimal offset ++ ": " ++
      Digits.decimal remaining ++ " bytes left"
  | overrun offset kind length =>
    "extension " ++ Digits.hexByte kind ++ " at offset " ++ Digits.decimal offset ++
      " has invalid length " ++ Digits.decimal length
  | bufferOverrun consumed expected =>
    "buffer overrun (" ++ Digits.decimal consumed ++ " / " ++ Digits.decimal expected ++ ")"

end HeaderError

/-! ## Anomalies -/

/-- A finding about a header that was accepted. -/
inductive Anomaly where
  /-- Datagrams are well formed but not served. -/
  | unsupportedTransport (family : Family) (transport : Transport)
  /-- The paths of UNIX sockets are skipped. -/
  | unixAddress
  /-- A record whose type code is none of those decoded. -/
  | unknownExtension (offset : Nat) (code : UInt8)
  /-- A record inside a TLS extension that is neither version nor cipher. -/
  | unknownSubtype (offset : Nat) (code : UInt8)
  deriving Repr, DecidableEq

namespace Anomaly

/-- Whether the finding makes the connection one that is not served. -/
def isUnsupported : Anomaly → Bool
  | unsupportedTransport .. | unixAddress => true
  | unknownExtension .. | unknownSubtype .. => false

/-- The sentence that tells a person what was found. -/
def message : Anomaly → String
  | unsupportedTransport family transport =>
    "protocol " ++ protocolName family transport ++ " unsupported"
  | unixAddress => "printing of UNIX socket addresses not implemented"
  | unknownExtension offset code =>
    "unknown extension " ++ Digits.hexByte code ++ " at offset " ++ Digits.decimal offset
  | unknownSubtype offset code =>
    "unknown SSL subtype " ++ Digits.hexByte code ++ " at offset " ++ Digits.decimal offset

end Anomaly

end ProxyHeader
