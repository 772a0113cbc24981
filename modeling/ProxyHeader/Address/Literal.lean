import ProxyHeader.Address
import ProxyHeader.Text.Digits
import ProxyHeader.Text.Scan

/-!
# Reading address literals

`IpAddress.ofChars?` reads the text of an address: four decimal numbers joined by dots,
or up to eight hexadecimal groups joined by colons, where one `::` stands for the zero
groups that are missing and the last two groups may be written as an IPv4 address.

A decimal number has at most three digits and no leading zero; a hexadecimal group has
at most four digits of either case. The whole text must be used.
-/

namespace ProxyHeader

namespace Literal

/-! ## Leaves -/

/-- One of the four numbers of an IPv4 address. -/
def octet (cs : List Char) : Option (UInt8 × List Char) :=
  let (ds, rest) := Digits.span 10 cs
  if ds.length = 0 ∨ 3 < ds.length then none
  else if 1 < ds.length ∧ ds.head? = some 0 then none
  else if 256 ≤ Digits.value 10 ds then none
  else some (UInt8.ofNat (Digits.value 10 ds), rest)

/-- One of the groups of an IPv6 address. -/
def group (cs : List Char) : Option (UInt16 × List Char) :=
  let (ds, rest) := Digits.span 16 cs
  if ds.length = 0 ∨ 4 < ds.length then none
  else some (UInt16.ofNat (Digits.value 16 ds), rest)

/-! ## Addresses -/

/-- An IPv4 address at the front of a text. -/
def ipv4 (cs : List Char) : Option (Ipv4 × List Char) := do
  let (a, cs) ← octet cs
  let (b, cs) ← octet (← Scan.after? '.' cs)
  let (c, cs) ← octet (← Scan.after? '.' cs)
  let (d, cs) ← octet (← Scan.after? '.' cs)
  return (⟨#v[a, b, c, d]⟩, cs)

/-- A text after the colon that stands before every group but the first. -/
def afterColon (first : Bool) (cs : List Char) : Option (List Char) :=
  if first then some cs else Scan.after? ':' cs

/-- At most `places` groups joined by colons, whether an IPv4 address ended them, and
what follows. An IPv4 address takes two places and is tried first. -/
def groups : (places : Nat) → (first : Bool) → List Char → List UInt16 × Bool × List Char
  | 0, _, cs => ([], false, cs)
  | places + 1, first, cs =>
    match if places = 0 then none else (afterColon first cs).bind ipv4 with
    | some (a, rest) => (Ipv6.pairUp a.octets.toList, true, rest)
    | none =>
      match (afterColon first cs).bind group with
      | some (g, rest) =>
        let (gs, ended, rest) := groups places false rest
        (g :: gs, ended, rest)
      | none => ([], false, cs)

/-- An IPv6 address at the front of a text. -/
def ipv6 (cs : List Char) : Option (Ipv6 × List Char) := do
  let (head, ended, cs) := groups 8 true cs
  if head.length = 8 then
    return (← Ipv6.ofGroups? head, cs)
  else if ended then
    none
  else
    let cs ← Scan.after? ':' cs
    let cs ← Scan.after? ':' cs
    let (tail, _, cs) := groups (7 - head.length) true cs
    let zeros := List.replicate (8 - head.length - tail.length) 0
    return (← Ipv6.ofGroups? (head ++ zeros ++ tail), cs)

end Literal

/-- The address that a text writes. -/
def IpAddress.ofChars? (cs : List Char) : Option IpAddress :=
  let read := ((Literal.ipv4 cs).map fun (a, rest) => (IpAddress.v4 a, rest)).orElse fun _ =>
    (Literal.ipv6 cs).map fun (a, rest) => (IpAddress.v6 a, rest)
  match read with
  | some (a, []) => some a
  | _ => none

end ProxyHeader
