import ProxyHeader.Proofs.AddressText
import ProxyHeader.Proofs.Verdict

/-!
# The endpoints that reports show

Lines 4 to 7 of a text report show two endpoints, an address or a port in each. They are read
back as address literals and decimal numbers (`readEndpoint?_text`), and what is read is the
address block byte by byte (`Report.endpoints_shown`): both addresses and then both ports, most
significant byte first. The JSON report joins the same texts. So the four lines determine the
address block.
-/

namespace ProxyHeader

/-! ## Endpoints read back -/

namespace Digits

/-- The number that a text writes in decimal digits, if it is made of nothing else. -/
def ofDecimal? (cs : List Char) : Option Nat :=
  match span 10 cs with
  | (d :: ds, []) => some (value 10 (d :: ds))
  | _ => none

theorem ofDecimal?_decimal (n : Nat) : ofDecimal? (decimal n).toList = some n := by
  obtain ⟨d, ds, hvalue, -, hspan⟩ := span_toDigits (show 1 < 10 by decide) (by decide) n
  have hdigits : span 10 (Nat.toDigits 10 n) = (d :: ds, []) := by
    have h := hspan []
    rwa [List.append_nil, span, List.append_nil] at h
  rw [ofDecimal?, decimal, String.toList_ofList, hdigits]
  exact congrArg some hvalue

end Digits

/-- The endpoint that an address literal and a decimal number write. -/
def readEndpoint? (ip port : String) : Option Endpoint := do
  let ip ← IpAddress.ofChars? ip.toList
  let port ← Digits.ofDecimal? port.toList
  if port < 65536 then some ⟨ip, UInt16.ofNat port⟩ else none

theorem readEndpoint?_text (e : Endpoint) : readEndpoint? e.ip.text e.portText = some e := by
  have hip : IpAddress.ofChars? e.ip.text.toList = some e.ip := by
    rw [IpAddress.text, String.toList_ofList, IpAddress.ofChars?_chars]
  have hport : Digits.ofDecimal? e.portText.toList = some e.port.toNat :=
    Digits.ofDecimal?_decimal _
  simp only [readEndpoint?, hip, hport, Option.bind_eq_bind, Option.bind_some,
    if_pos e.port.toNat_lt, UInt16.ofNat_toNat]

/-! ## The address block of an accepted header -/

theorem Addresses.encode_of_endpoints? {a : Addresses} {s d : Endpoint}
    (h : a.endpoints? = some (s, d)) (paths : Bytes) : a.encode paths = encodePair s d := by
  cases a with
  | inet source destination | inet6 source destination =>
    obtain ⟨rfl, rfl⟩ := Prod.mk.inj (Option.some.inj h)
    rfl
  | unix | unspecified => nomatch h

namespace Header.Describes

variable {h : Header} {i : Info}

theorem block_eq (hi : h.Describes i) (t : Bytes) {s d : Endpoint}
    (hendpoints : i.addresses.endpoints? = some (s, d)) :
    i.preamble.block (h.encode ++ t) = encodePair s d := by
  rw [hi.preamble, h.block_encode, ← hi.block, Addresses.encode_of_endpoints? hendpoints]

theorem extract_block (hi : h.Describes i) (t : Bytes) {s d : Endpoint}
    (hendpoints : i.addresses.endpoints? = some (s, d)) :
    (h.encode ++ t).extract preambleLength (preambleLength + i.preamble.family.blockLength) =
      encodePair s d := by
  rw [← hi.block_eq t hendpoints, hi.preamble]
  rfl

theorem endpoints?_of_inet (hi : h.Describes i) (hfamily : i.preamble.family = .inet) :
    ∃ (a b : Ipv4) (p q : UInt16),
      i.addresses.endpoints? = some (⟨.v4 a, p⟩, ⟨.v4 b, q⟩) := by
  rw [hi.preamble] at hfamily
  have haddresses : Addresses.OfFamily .inet i.addresses := hfamily ▸ hi.family
  generalize i.addresses = addresses at haddresses
  cases haddresses with
  | inet a b p q => exact ⟨a, b, p, q, rfl⟩

theorem endpoints?_of_inet6 (hi : h.Describes i) (hfamily : i.preamble.family = .inet6) :
    ∃ (a b : Ipv6) (p q : UInt16),
      i.addresses.endpoints? = some (⟨.v6 a, p⟩, ⟨.v6 b, q⟩) := by
  rw [hi.preamble] at hfamily
  have haddresses : Addresses.OfFamily .inet6 i.addresses := hfamily ▸ hi.family
  generalize i.addresses = addresses at haddresses
  cases haddresses with
  | inet6 a b p q => exact ⟨a, b, p, q, rfl⟩

end Header.Describes

namespace Report

/-! ## Where endpoints are shown -/

/-- Lines 4 to 7 of a text report. -/
def addressLines (i : Info) : List String :=
  ((splitLines (text i)).drop 3).take 4

/-- Four texts show an address block with addresses of `n` bytes. They stand in lines 4 to 7 of
the text report, are read back as what the block says, and are joined in the JSON report. -/
structure ShowBlock (i : Info) (n : Nat) (join : String → String → String) (block : Bytes)
    (a b p q : String) : Prop where
  lines : addressLines i = ["Source IP:\t" ++ a, "Destination IP:\t" ++ b,
    "Source port:\t" ++ p, "Destination port:\t" ++ q]
  read : ∃ source destination, readEndpoint? a p = some source ∧
    readEndpoint? b q = some destination ∧
    source.ip.octets.length = n ∧ destination.ip.octets.length = n ∧
    block = source.ip.octets ++ (destination.ip.octets ++
      (BigEndian.bytes16 source.port ++ BigEndian.bytes16 destination.port))
  source : jsonField? "source" i = some (.string (join a p))
  destination : jsonField? "destination" i = some (.string (join b q))

theorem addressLines_eq {i : Info} {s d : Endpoint}
    (hendpoints : i.addresses.endpoints? = some (s, d)) :
    addressLines i = ["Source IP:\t" ++ s.ip.text, "Destination IP:\t" ++ d.ip.text,
      "Source port:\t" ++ s.portText, "Destination port:\t" ++ d.portText] := by
  rw [addressLines, drop_splitLines_text, hendpoints]
  rfl

theorem showBlock_of_endpoints? {i : Info} {s d : Endpoint}
    (hendpoints : i.addresses.endpoints? = some (s, d)) {n : Nat}
    {join : String → String → String} (hs : s.text = join s.ip.text s.portText)
    (hd : d.text = join d.ip.text d.portText) (hslen : s.ip.octets.length = n)
    (hdlen : d.ip.octets.length = n) :
    ShowBlock i n join (encodePair s d) s.ip.text d.ip.text s.portText d.portText where
  lines := addressLines_eq hendpoints
  read := ⟨s, d, readEndpoint?_text s, readEndpoint?_text d, hslen, hdlen, rfl⟩
  source := by
    rw [jsonField?_eq, ← hs]
    show some (Json.ofText? (i.client?.map (·.text))) = _
    rw [Info.client?, hendpoints]
    rfl
  destination := by
    rw [jsonField?_eq, ← hd]
    show some (Json.ofText? (i.server?.map (·.text))) = _
    rw [Info.server?, hendpoints]
    rfl

/-- The endpoints shown in four lines are determined by them. -/
theorem endpoints?_eq_of_addressLines_eq {i j : Info} {s d : Endpoint}
    (hendpoints : i.addresses.endpoints? = some (s, d))
    (hlines : addressLines j = addressLines i) : j.addresses.endpoints? = some (s, d) := by
  have hshown : ShowsEndpoints j := by
    have hi := (showsEndpoints_iff i).mpr (by rw [hendpoints]; rfl)
    unfold ShowsEndpoints at hi ⊢
    rw [← addressLines] at hi ⊢
    rwa [hlines]
  obtain ⟨⟨s', d'⟩, hendpoints'⟩ := Option.isSome_iff_exists.mp ((showsEndpoints_iff j).mp hshown)
  rw [addressLines_eq hendpoints, addressLines_eq hendpoints'] at hlines
  simp only [List.cons.injEq, String.append_right_inj, and_true] at hlines
  obtain ⟨hsource, hdestination, hport, hport'⟩ := hlines
  have hs := readEndpoint?_text s'
  have hd := readEndpoint?_text d'
  rw [hsource, hport, readEndpoint?_text] at hs
  rw [hdestination, hport', readEndpoint?_text] at hd
  rw [hendpoints', Option.some.inj hs, Option.some.inj hd]

/-! ## The endpoints of an accepted header -/

theorem exists_showBlock {h : Header} {i : Info} (hi : h.Describes i) (t : Bytes)
    {s d : Endpoint} (hendpoints : i.addresses.endpoints? = some (s, d)) {n : Nat}
    (join : String → String → String) (hs : s.text = join s.ip.text s.portText)
    (hd : d.text = join d.ip.text d.portText) (hslen : s.ip.octets.length = n)
    (hdlen : d.ip.octets.length = n) :
    ∃ a b p q, ShowBlock i n join ((h.encode ++ t).extract preambleLength
      (preambleLength + i.preamble.family.blockLength)) a b p q := by
  rw [hi.extract_block t hendpoints]
  exact ⟨_, _, _, _, showBlock_of_endpoints? hendpoints hs hd hslen hdlen⟩

/-- Lines 4 to 7 of the report of an accepted header show the address block. Read back they are
what it says, joined they are the endpoints in the JSON report, and no header with another
block has the same four lines. -/
theorem endpoints_shown {buf : Bytes} {i : Info} (h : Info.read buf = .ok i) :
    (i.preamble.family = .inet → ∃ a b p q,
      ShowBlock i 4 (fun ip port => ip ++ ":" ++ port) (buf.extract 16 28) a b p q) ∧
    (i.preamble.family = .inet6 → ∃ a b p q,
      ShowBlock i 16 (fun ip port => "[" ++ ip ++ "]:" ++ port) (buf.extract 16 52) a b p q) ∧
    ∀ buf' j, Info.read buf' = .ok j →
      i.preamble.family = .inet ∨ i.preamble.family = .inet6 →
      addressLines j = addressLines i → j.preamble.block buf' = i.preamble.block buf := by
  obtain ⟨header, t, rfl, hi⟩ := Info.read_eq_ok_iff.mp h
  refine ⟨fun hfamily => ?_, fun hfamily => ?_, fun buf' j h' hfamily hlines => ?_⟩
  · obtain ⟨a, b, p, q, hendpoints⟩ := hi.endpoints?_of_inet hfamily
    have hshow := exists_showBlock hi t hendpoints (fun ip port => ip ++ ":" ++ port) rfl rfl
      a.octets.length_toList b.octets.length_toList
    rwa [hfamily] at hshow
  · obtain ⟨a, b, p, q, hendpoints⟩ := hi.endpoints?_of_inet6 hfamily
    have hshow := exists_showBlock hi t hendpoints (fun ip port => "[" ++ ip ++ "]:" ++ port)
      rfl rfl a.octets.length_toList b.octets.length_toList
    rwa [hfamily] at hshow
  · have hunix : i.preamble.family ≠ .unix := by
      rcases hfamily with hfamily | hfamily <;> rw [hfamily] <;> decide
    obtain ⟨⟨s, d⟩, hendpoints⟩ :=
      Option.isSome_iff_exists.mp (hi.isSome_endpoints?.mpr hunix)
    have hendpoints' := endpoints?_eq_of_addressLines_eq hendpoints hlines
    obtain ⟨header', t', rfl, hj⟩ := Info.read_eq_ok_iff.mp h'
    rw [hi.block_eq t hendpoints, hj.block_eq t' hendpoints']

/-- A TCP connection over IPv6, from an address that stands for an IPv4 address to one with
zero groups. -/
def ipv6Header : Header :=
  { tlsHeader with
    family := .inet6
    block := List.replicate 10 0 ++ [0xFF, 0xFF, 192, 0, 2, 1] ++
      ([0x20, 0x01, 0x0D, 0xB8] ++ List.replicate 11 0 ++ [0x01]) ++ [0x30, 0x39, 0x01, 0xBB]
    records := []
    family_ne_unspec := by decide
    length_block := rfl
    length_le := by decide }

/-- What is read of `ipv6Header`. -/
def ipv6Info : Info where
  preamble := ⟨.proxy, .inet6, .stream, 36, 0⟩
  addresses := .inet6
    ⟨.v6 ⟨#v[0, 0, 0, 0, 0, 0, 0, 0, 0, 0, 0xFF, 0xFF, 192, 0, 2, 1]⟩, 12345⟩
    ⟨.v6 ⟨#v[0x20, 0x01, 0x0D, 0xB8, 0, 0, 0, 0, 0, 0, 0, 0, 0, 0, 0, 0x01]⟩, 443⟩
  extensions := []
  anomalies := []

theorem endpoints_shown_ipv6Header : Info.read (ipv6Header.encode ++ [0x47]) = .ok ipv6Info ∧
    addressLines ipv6Info = ["Source IP:\t::ffff:192.0.2.1", "Destination IP:\t2001:db8::1",
      "Source port:\t12345", "Destination port:\t443"] ∧
    ∃ a b p q, ShowBlock ipv6Info 16 (fun ip port => "[" ++ ip ++ "]:" ++ port)
      ((ipv6Header.encode ++ [0x47]).extract 16 52) a b p q := by
  have h : Info.read (ipv6Header.encode ++ [0x47]) = .ok ipv6Info := by decide +kernel
  obtain ⟨-, hshow, -⟩ := endpoints_shown h
  exact ⟨h, (addressLines_eq rfl).trans (by decide +kernel), hshow rfl⟩

end Report

end ProxyHeader
