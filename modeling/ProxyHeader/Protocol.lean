import ProxyHeader.Bytes.BigEndian

/-!
# Commands, address families and transports

A version-2 header names what it carries by three four-bit codes: a command (is the
connection relayed or the proxy's own), an address family and a transport. Here they
are as types, with the codes they stand for, the length of each family's address block
and the name of each pairing of family and transport.

`ofNibble?` and `nibble` are inverse to each other on every type
(`ofNibble?_eq_some_iff`).
-/

namespace ProxyHeader

/-! ## Command -/

/-- Whether the connection is the proxy's own or relayed for someone else. -/
inductive Command where
  | localCommand
  | proxy
  deriving Repr, DecidableEq

namespace Command

/-- The code of a command. -/
def nibble : Command → UInt8
  | localCommand => 0x0
  | proxy => 0x1

/-- The command with a given code. -/
def ofNibble? : UInt8 → Option Command
  | 0x0 => some localCommand
  | 0x1 => some proxy
  | _ => none

/-- The name a report gives a command. -/
def name : Command → String
  | localCommand => "LOCAL"
  | proxy => "PROXY"

theorem ofNibble?_eq_some_iff {n : UInt8} {c : Command} : ofNibble? n = some c ↔ n = c.nibble := by
  unfold ofNibble?
  split <;> cases c <;> simp_all [nibble]

end Command

/-! ## Address family -/

/-- The kind of addresses in the address block. -/
inductive Family where
  | unspec
  | inet
  | inet6
  | unix
  deriving Repr, DecidableEq

namespace Family

/-- The code of a family. -/
def nibble : Family → UInt8
  | unspec => 0x0
  | inet => 0x1
  | inet6 => 0x2
  | unix => 0x3

/-- The family with a given code. -/
def ofNibble? : UInt8 → Option Family
  | 0x0 => some unspec
  | 0x1 => some inet
  | 0x2 => some inet6
  | 0x3 => some unix
  | _ => none

/-- The name a report gives a family. -/
def name : Family → String
  | unspec => "UNSPEC"
  | inet => "INET"
  | inet6 => "INET6"
  | unix => "UNIX"

/-- How many bytes the two endpoints of a family take. -/
def blockLength : Family → Nat
  | unspec => 0
  | inet => 12
  | inet6 => 36
  | unix => 216

theorem ofNibble?_eq_some_iff {n : UInt8} {f : Family} : ofNibble? n = some f ↔ n = f.nibble := by
  unfold ofNibble?
  split <;> cases f <;> simp_all [nibble]

end Family

/-! ## Transport -/

/-- What the connection was carried over. -/
inductive Transport where
  | unspec
  | stream
  | datagram
  deriving Repr, DecidableEq

namespace Transport

/-- The code of a transport. -/
def nibble : Transport → UInt8
  | unspec => 0x0
  | stream => 0x1
  | datagram => 0x2

/-- The transport with a given code. -/
def ofNibble? : UInt8 → Option Transport
  | 0x0 => some unspec
  | 0x1 => some stream
  | 0x2 => some datagram
  | _ => none

/-- The name a report gives a transport. -/
def name : Transport → String
  | unspec => "UNSPEC"
  | stream => "STREAM"
  | datagram => "DGRAM"

theorem ofNibble?_eq_some_iff {n : UInt8} {t : Transport} :
    ofNibble? n = some t ↔ n = t.nibble := by
  unfold ofNibble?
  split <;> cases t <;> simp_all [nibble]

end Transport

/-- The protocol that a family and a transport make together. -/
def protocolName : Family → Transport → String
  | .inet, .stream => "TCP over IPv4"
  | .inet, .datagram => "UDP over IPv4"
  | .inet6, .stream => "TCP over IPv6"
  | .inet6, .datagram => "UDP over IPv6"
  | .unix, .stream => "UNIX stream"
  | .unix, .datagram => "UNIX datagram"
  | _, _ => "unspecified"

end ProxyHeader
