import ProxyHeader.Bytes.BigEndian

/-!
# Internet addresses

An address is the four or sixteen bytes the wire carries. A version-6 address is also
seen as eight 16-bit groups, which is how people read and write it; `groups_ofGroups?`
says that the groups determine the address.

An endpoint is an address with a port.
-/

namespace ProxyHeader

/-- An IPv4 address. -/
structure Ipv4 where
  octets : Vector UInt8 4
  deriving Repr, DecidableEq

/-- An IPv6 address. -/
structure Ipv6 where
  octets : Vector UInt8 16
  deriving Repr, DecidableEq

/-- An internet address of either version. -/
inductive IpAddress where
  | v4 (address : Ipv4)
  | v6 (address : Ipv6)
  deriving Repr, DecidableEq

namespace IpAddress

/-- The bytes of an address, in wire order. -/
def octets : IpAddress → Bytes
  | v4 a => a.octets.toList
  | v6 a => a.octets.toList

end IpAddress

/-- An address and a port on it. An IPv6 endpoint that is made by hand can carry a scope and a
flow label too; a block never gives any, and they are left out. -/
structure Endpoint where
  ip : IpAddress
  port : UInt16
  deriving Repr, DecidableEq

/-! ## Groups of sixteen bits -/

namespace Ipv6

/-- Bytes taken two at a time; a byte left over is dropped. -/
def pairUp : Bytes → List UInt16
  | hi :: lo :: rest => BigEndian.word16 hi lo :: pairUp rest
  | _ => []

/-- The eight groups of an address. -/
def groups (a : Ipv6) : List UInt16 :=
  pairUp a.octets.toList

/-- The address with the given groups, if they are eight. -/
def ofGroups? (gs : List UInt16) : Option Ipv6 :=
  let bytes := gs.flatMap BigEndian.bytes16
  if h : bytes.length = 16 then some ⟨⟨bytes.toArray, by simpa using h⟩⟩ else none

theorem pairUp_flatMap : ∀ gs : List UInt16, pairUp (gs.flatMap BigEndian.bytes16) = gs
  | [] => rfl
  | g :: gs => by
    simp only [List.flatMap_cons, BigEndian.bytes16, List.cons_append, List.nil_append, pairUp,
      BigEndian.word16_bytes16, pairUp_flatMap gs]

theorem flatMap_pairUp : ∀ bs : Bytes, 2 ∣ bs.length →
    (pairUp bs).flatMap BigEndian.bytes16 = bs
  | [], _ => rfl
  | [_], h => by simp at h
  | hi :: lo :: rest, h => by
    have hrest : 2 ∣ rest.length := by simp only [List.length_cons] at h; omega
    simp only [pairUp, List.flatMap_cons, BigEndian.bytes16_word16, flatMap_pairUp rest hrest,
      List.cons_append, List.nil_append]

theorem groups_ofGroups? {gs : List UInt16} {a : Ipv6} (h : ofGroups? gs = some a) :
    a.groups = gs := by
  simp only [ofGroups?, Option.dite_none_right_eq_some, Option.some.injEq] at h
  obtain ⟨hlen, rfl⟩ := h
  simp only [groups, Vector.toList_mk]
  exact pairUp_flatMap gs

theorem ofGroups?_groups (a : Ipv6) : ofGroups? a.groups = some a := by
  have h : a.groups.flatMap BigEndian.bytes16 = a.octets.toList :=
    flatMap_pairUp _ (by simp)
  simp only [ofGroups?, Option.dite_none_right_eq_some, Option.some.injEq]
  refine ⟨by simp [h], ?_⟩
  obtain ⟨⟨octets, hlen⟩⟩ := a
  simp [h]

end Ipv6

end ProxyHeader
