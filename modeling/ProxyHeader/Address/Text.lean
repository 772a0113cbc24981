import ProxyHeader.Address
import ProxyHeader.Text.Digits

/-!
# Addresses as text

An IPv4 address is four decimal numbers joined by dots. An IPv6 address is eight
hexadecimal groups joined by colons, lower case and without leading zeros, with the
longest run of two or more zero groups (the first of equals) left out between two
colons; an address that stands for an IPv4 address ends in that address instead.

An endpoint is the address, a colon and the port, with brackets around an IPv6 address
so that the last colon is the one before the port.
-/

namespace ProxyHeader

namespace Ipv4

/-- The dotted form of an address. -/
def chars (a : Ipv4) : List Char :=
  List.intercalate ['.'] (a.octets.toList.map fun b => Nat.toDigits 10 b.toNat)

end Ipv4

namespace Ipv6

/-- How many zero groups stand in front. -/
def leadingZeros : List UInt16 → Nat
  | g :: gs => if g = 0 then leadingZeros gs + 1 else 0
  | [] => 0

/-- Position and length of the longest run of zero groups, the first of equals. -/
def longestZeroRun : List UInt16 → Nat × Nat
  | [] => (0, 0)
  | g :: gs =>
    let here := leadingZeros (g :: gs)
    let (start, length) := longestZeroRun gs
    if length ≤ here then (0, here) else (start + 1, length)

/-- Groups in hexadecimal, joined by colons. -/
def colonJoin (gs : List UInt16) : List Char :=
  List.intercalate [':'] (gs.map fun g => Nat.toDigits 16 g.toNat)

/-- The IPv4 address that an IPv6 address stands for, if it is `::ffff:` and one. -/
def mapped? (a : Ipv6) : Option Ipv4 :=
  if a.groups.take 6 = [0, 0, 0, 0, 0, 0xFFFF] then
    some ⟨#v[a.octets[12], a.octets[13], a.octets[14], a.octets[15]]⟩
  else none

/-- The colon form of an address. -/
def chars (a : Ipv6) : List Char :=
  match a.mapped? with
  | some v4 => "::ffff:".toList ++ v4.chars
  | none =>
    let (start, length) := longestZeroRun a.groups
    if 2 ≤ length then
      colonJoin (a.groups.take start) ++ [':', ':'] ++ colonJoin (a.groups.drop (start + length))
    else colonJoin a.groups

end Ipv6

namespace IpAddress

/-- The text of an address, as characters. -/
def chars : IpAddress → List Char
  | v4 a => a.chars
  | v6 a => a.chars

/-- The text of an address. -/
def text (a : IpAddress) : String :=
  String.ofList a.chars

end IpAddress

namespace Endpoint

/-- The text of a port. -/
def portText (e : Endpoint) : String :=
  Digits.decimal e.port.toNat

/-- The text of an endpoint. -/
def text (e : Endpoint) : String :=
  match e.ip with
  | .v4 _ => e.ip.text ++ ":" ++ e.portText
  | .v6 _ => "[" ++ e.ip.text ++ "]:" ++ e.portText

end Endpoint

end ProxyHeader
