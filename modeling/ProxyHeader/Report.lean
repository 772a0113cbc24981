import ProxyHeader.Address.Text
import ProxyHeader.Info
import ProxyHeader.Json

/-!
# Reports

An accepted header is reported to people as lines of text, each a label, a tab and a
value, and to programs as a JSON object. The text report shows endpoints, the decoded
extensions and one warning for each anomaly; the object shows every extension, decoded
or not.

A refusal is reported as one line or one object. When an extension record was at fault
the bytes declared to be records are shown with it.
-/

namespace ProxyHeader

namespace Report

/-! ## Text -/

/-- A line of a text report. -/
inductive Line where
  | heading (text : String)
  | field (label value : String)
  deriving Repr, DecidableEq

/-- A line as it is printed, without its end. -/
def Line.text : Line → String
  | heading text => text
  | field label value => label ++ ":\t" ++ value

/-- The lines for both endpoints. -/
def endpointLines : Option (Endpoint × Endpoint) → List Line
  | some (source, destination) =>
    [.field "Source IP" source.ip.text, .field "Destination IP" destination.ip.text,
      .field "Source port" source.portText, .field "Destination port" destination.portText]
  | none => []

/-- The line for a text that may be missing. -/
def optionalLine (label : String) : Option String → List Line
  | some value => [.field label value]
  | none => []

/-- The lines for a TLS session. -/
def sslLines (s : SslInfo) : List Line :=
  [.field "SSL client" (Digits.hex s.client.toNat),
    .field "SSL verify" (Digits.hex s.verify.toNat)] ++
  optionalLine "SSL version" s.version? ++ optionalLine "SSL cipher" s.cipher?

/-- The lines for an extension. -/
def extensionLines (e : Extension) : List Line :=
  match e.kind with
  | .alpn => [.field "ALPN extension" (Utf8.lossy e.payload)]
  | .authority => [.field "Authority extension" (Utf8.lossy e.payload)]
  | .ssl => (e.ssl?.map sslLines).getD []
  | .unknown _ => []

/-- The line for an anomaly. -/
def anomalyLine (a : Anomaly) : Line :=
  .field "WARNING" a.message

/-- The lines for an accepted header. -/
def lines (i : Info) : List Line :=
  [.heading "PROXY v2 detected.", .field "Connection" "PROXYed connection detected",
    .field "Protocol" i.preamble.protocol] ++
  endpointLines i.addresses.endpoints? ++ i.extensions.flatMap extensionLines ++
  i.anomalies.map anomalyLine

/-- The text report of an accepted header. Every line ends in a newline. -/
def text (i : Info) : String :=
  String.join ((lines i).map fun line => line.text ++ "\n")

/-! ## JSON -/

/-- What a TLS session is to a program. -/
def sslJson (s : SslInfo) : Json :=
  .object [
    ("client", .number s.client.toNat),
    ("verify", .number s.verify.toNat),
    ("client_ssl", .bool s.clientSsl),
    ("client_cert_conn", .bool s.clientCertConnection),
    ("client_cert_sess", .bool s.clientCertSession),
    ("version", .ofText? s.version?),
    ("cipher", .ofText? s.cipher?)]

/-- What an extension is to a program. -/
def extensionJson (e : Extension) : Json :=
  .object ([
    ("kind", .string e.kind.name),
    ("code", .number e.kind.code.toNat),
    ("offset", .number e.offset),
    ("length", .number e.length),
    ("value", .string (Utf8.lossy e.payload))] ++
    (e.ssl?.map fun s => ("ssl", sslJson s)).toList)

/-- What an accepted header is to a program. -/
def json (i : Info) : Json :=
  .object [
    ("command", .string i.preamble.command.name),
    ("family", .string i.preamble.family.name),
    ("transport", .string i.preamble.transport.name),
    ("protocol", .string i.preamble.protocol),
    ("address_block_len", .number i.preamble.blockLength),
    ("extensions_len", .number i.preamble.extensionsLength),
    ("source", .ofText? (i.client?.map (·.text))),
    ("destination", .ofText? (i.server?.map (·.text))),
    ("extensions", .array (i.extensions.map extensionJson)),
    ("anomalies", .array (i.anomalies.map fun a => .string a.message)),
    ("supported", .bool i.isSupported)]

/-! ## Refusals -/

/-- Bytes in hexadecimal, each after a space. -/
def dump (bytes : Bytes) : String :=
  String.join (bytes.map fun b => " " ++ Digits.hex b.toNat)

/-- The text report of a refusal. -/
def errorText (e : HeaderError) (buf : Bytes) : String :=
  let first := "ERROR:\t" ++ e.message
  match Info.extensionBytes? e buf with
  | some bytes => first ++ "\nExtensions data:" ++ dump bytes
  | none => first

/-- What a refusal is to a program. -/
def errorJson (e : HeaderError) (buf : Bytes) : Json :=
  .object ([("error", .string e.kind), ("message", .string e.message)] ++
    ((Info.extensionBytes? e buf).map fun bytes =>
      ("data", Json.array (bytes.map fun b => .number b.toNat))).toList)

/-! ## Either -/

/-- The two forms of report. -/
inductive Format where
  | text
  | json
  deriving Repr, DecidableEq

/-- The name that settings give a form of report. -/
def Format.name : Format → String
  | text => "text"
  | json => "json"

/-- The form of report with a given name. -/
def Format.ofName? (s : String) : Option Format :=
  if s = "text" then some text else if s = "json" then some json else none

/-- All that is printed about the received bytes. -/
def render (format : Format) (buf : Bytes) : String :=
  match Info.read buf, format with
  | .ok i, .text => text i
  | .ok i, .json => (json i).render ++ "\n"
  | .error e, .text => errorText e buf ++ "\n"
  | .error e, .json => (errorJson e buf).render ++ "\n"

end Report

end ProxyHeader
