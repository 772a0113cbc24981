import ProxyHeader.Address
import ProxyHeader.Bytes.Reader
import ProxyHeader.Preamble

/-!
# The address block

After the preamble stand the endpoints of the relayed connection: both addresses, then
both ports, each source first. The socket paths of the UNIX family are passed over.

`Addresses.decode` uses exactly the family's length of bytes and ignores what follows
them; a shorter block is a short read of the header as a whole.
-/

namespace ProxyHeader

/-- What the address block of a header says. -/
inductive Addresses where
  | inet (source destination : Endpoint)
  | inet6 (source destination : Endpoint)
  | unix
  | unspecified
  deriving Repr, DecidableEq

namespace Addresses

/-- Source and destination, where they are known. -/
def endpoints? : Addresses → Option (Endpoint × Endpoint)
  | inet source destination | inet6 source destination => some (source, destination)
  | unix | unspecified => none

/-- Two addresses of `n` bytes and their ports. -/
def readPair {n : Nat} (ip : Vector UInt8 n → IpAddress) (r : Reader) :
    Option (Endpoint × Endpoint) := do
  let (source, r) ← r.vector n
  let (destination, r) ← r.vector n
  let (sourcePort, r) ← r.u16
  let (destinationPort, _) ← r.u16
  return (⟨ip source, sourcePort⟩, ⟨ip destination, destinationPort⟩)

/-- Reads the block of a family. -/
def read? (family : Family) (r : Reader) : Option Addresses :=
  match family with
  | .inet => (readPair (fun octets => .v4 ⟨octets⟩) r).map fun (s, d) => inet s d
  | .inet6 => (readPair (fun octets => .v6 ⟨octets⟩) r).map fun (s, d) => inet6 s d
  | .unix => (r.take family.blockLength).map fun _ => unix
  | .unspec => some unspecified

/-- Decodes an address block, which starts right after the preamble. -/
def decode (family : Family) (block : Bytes) : Except HeaderError Addresses :=
  match read? family (Reader.ofBytes block preambleLength) with
  | some addresses => .ok addresses
  | none =>
    .error (.shortRead (preambleLength + family.blockLength) (preambleLength + block.length))

end Addresses

end ProxyHeader
