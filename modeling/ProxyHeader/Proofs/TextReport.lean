import Mathlib.Data.List.Forall2
import ProxyHeader.Proofs.AddressText
import ProxyHeader.Proofs.Dump
import ProxyHeader.Proofs.Utf8

/-!
# One line for each thing reported

A text report is meant to be read by its lines: each opens with a label that says what it
is about. `Report.OneLineEach` says that a report is what it seems, that it has as many
newlines as there are things to report and that its lines open with their labels, in
order.

Bytes that a peer sends are shown as they are, once they are text
(`Extension.shown`). Everything else in a line is free of newlines, so a report is what it
seems exactly if there is no line feed among the bytes shown
(`Report.oneLineEach_iff`). A line feed there ends a line early and lets the peer write
the next one, as `Report.forgingHeader` does.
-/

namespace ProxyHeader

/-! ## What a report says of a header -/

/-- The bytes that are shown as the text of a kind of record: those of the first of its
kind, if they are valid. -/
def SslInfo.textBytes? (kind : SubKind) (s : SslInfo) : Option Bytes :=
  ((s.subExtensions.find? (·.kind = kind)).map (·.payload)).filter
    fun bs => (Utf8.decode? bs).isSome

/-- The bytes of an extension that a text report shows as text. -/
def Extension.shown (e : Extension) : List Bytes :=
  match e.kind, e.ssl? with
  | .alpn, _ | .authority, _ => [e.payload]
  | .ssl, some s => (s.textBytes? .version).toList ++ (s.textBytes? .cipher).toList
  | .ssl, none | .unknown _, _ => []

namespace Report

/-- How many things there are to report about a TLS session. -/
def sslCount (s : SslInfo) : Nat :=
  2 + (if s.version?.isSome then 1 else 0) + (if s.cipher?.isSome then 1 else 0)

/-- How many things there are to report about an extension. -/
def extensionCount (e : Extension) : Nat :=
  match e.kind, e.ssl? with
  | .alpn, _ | .authority, _ => 1
  | .ssl, some s => sslCount s
  | .ssl, none | .unknown _, _ => 0

/-- How many things there are to report. -/
def itemCount (i : Info) : Nat :=
  3 + (if i.addresses.endpoints?.isSome then 4 else 0) + (i.extensions.map extensionCount).sum +
    i.anomalies.length

/-- The labels for what is known of a TLS session. -/
def sslLabels (s : SslInfo) : List String :=
  ["SSL client:\t", "SSL verify:\t"] ++ (if s.version?.isSome then ["SSL version:\t"] else []) ++
    (if s.cipher?.isSome then ["SSL cipher:\t"] else [])

/-- The labels for an extension. -/
def extensionLabels (e : Extension) : List String :=
  match e.kind, e.ssl? with
  | .alpn, _ => ["ALPN extension:\t"]
  | .authority, _ => ["Authority extension:\t"]
  | .ssl, some s => sslLabels s
  | .ssl, none | .unknown _, _ => []

/-- The labels for both endpoints. -/
def endpointLabels : List String :=
  ["Source IP:\t", "Destination IP:\t", "Source port:\t", "Destination port:\t"]

/-- The labels of all things to report, in order. -/
def labels (i : Info) : List String :=
  ["PROXY v2 detected.", "Connection:\t", "Protocol:\t"] ++
    (if i.addresses.endpoints?.isSome then endpointLabels else []) ++
    i.extensions.flatMap extensionLabels ++ i.anomalies.map fun _ => "WARNING:\t"

/-- The line opens with the label. -/
def Opens (label line : String) : Prop :=
  label.toList <+: line.toList

/-- The text report is what it seems. -/
structure OneLineEach (i : Info) : Prop where
  /-- A newline ends the line for each thing to report, and there is no other. -/
  count : (text i).toList.count '\n' = itemCount i
  /-- The lines open with the labels of these things, in order. -/
  opens : ∃ ls, splitLines (text i) = ls ++ [""] ∧ List.Forall₂ Opens (labels i) ls

theorem length_labels (i : Info) : (labels i).length = itemCount i := by
  have hextension : ∀ e : Extension, (extensionLabels e).length = extensionCount e := by
    intro e
    unfold extensionLabels extensionCount
    cases e.kind with
    | ssl =>
      cases e.ssl? with
      | none => rfl
      | some s =>
        show (sslLabels s).length = sslCount s
        unfold sslLabels sslCount
        cases s.version? <;> cases s.cipher? <;> rfl
    | _ => rfl
  have hendpoints : (if i.addresses.endpoints?.isSome then endpointLabels else []).length =
      if i.addresses.endpoints?.isSome then 4 else 0 := by
    split <;> rfl
  simp only [labels, itemCount, List.length_append, List.length_flatMap, List.length_map,
    hextension, hendpoints]
  rfl

/-! ## The lines of a report -/

/-- What a line opens with. -/
def Line.label : Line → String
  | heading text => text
  | field label _ => label ++ ":\t"

theorem Line.opens_label (l : Line) : Opens l.label l.text := by
  cases l with
  | heading text => exact List.prefix_rfl
  | field label value =>
    rw [Opens, Line.label, Line.text, String.toList_append (s := label ++ ":\t")]
    exact List.prefix_append _ _

theorem forall₂_opens (ls : List Line) :
    List.Forall₂ Opens (ls.map Line.label) (ls.map Line.text) := by
  rw [List.forall₂_map_left_iff, List.forall₂_map_right_iff]
  exact List.forall₂_same.mpr fun l _ => l.opens_label

theorem text_eq_unlines (i : Info) : text i = unlines ((lines i).map Line.text) := by
  rw [unlines, List.map_map]
  rfl

theorem map_label_optionalLine (label : String) (o : Option String) :
    (optionalLine label o).map Line.label = if o.isSome then [label ++ ":\t"] else [] := by
  cases o <;> rfl

theorem map_label_extensionLines (e : Extension) :
    (extensionLines e).map Line.label = extensionLabels e := by
  unfold extensionLines extensionLabels
  cases e.kind with
  | ssl =>
    cases e.ssl? with
    | none => rfl
    | some s =>
      show (sslLines s).map Line.label = sslLabels s
      rw [sslLines, List.map_append, List.map_append, map_label_optionalLine,
        map_label_optionalLine]
      rfl
  | _ => rfl

/-- The lines open with the labels of the things to report. -/
theorem map_label_lines (i : Info) : (lines i).map Line.label = labels i := by
  have hendpoints : (endpointLines i.addresses.endpoints?).map Line.label =
      if i.addresses.endpoints?.isSome then endpointLabels else [] := by
    cases i.addresses.endpoints? <;> rfl
  rw [lines, labels, List.map_append, List.map_append, List.map_append, hendpoints,
    List.map_flatMap, List.map_map]
  simp only [map_label_extensionLines]
  rfl

/-! ## Newlines in a line -/

theorem newline_not_mem_field (label value : String) (hlabel : '\n' ∉ label.toList) :
    '\n' ∉ (Line.field label value).text.toList ↔ '\n' ∉ value.toList := by
  have htab : '\n' ∉ ":\t".toList := by decide
  rw [Line.text, String.toList_append, String.toList_append, List.mem_append, List.mem_append]
  tauto

/-- Text has a newline in it exactly if its bytes have a line feed in them. -/
theorem newline_mem_lossy_iff (bs : Bytes) :
    '\n' ∈ (Utf8.lossy bs).toList ↔ (0x0A : UInt8) ∈ bs :=
  Utf8.mem_lossy_iff (b := 0x0A) (by decide) bs

theorem newline_not_mem_endpointLines {o : Option (Endpoint × Endpoint)} {l : Line}
    (hl : l ∈ endpointLines o) : '\n' ∉ l.text.toList := by
  have hip : ∀ a : IpAddress, '\n' ∉ a.text.toList :=
    IpAddress.not_mem_text rfl (by decide) (by decide)
  have hport : ∀ e : Endpoint, '\n' ∉ e.portText.toList := fun e =>
    Digits.newline_not_mem_decimal e.port.toNat
  cases o with
  | none => exact absurd hl List.not_mem_nil
  | some pair =>
    obtain ⟨s, d⟩ := pair
    simp only [endpointLines, List.mem_cons, List.not_mem_nil, or_false] at hl
    rcases hl with rfl | rfl | rfl | rfl
    · exact (newline_not_mem_field _ _ (by decide)).mpr (hip s.ip)
    · exact (newline_not_mem_field _ _ (by decide)).mpr (hip d.ip)
    · exact (newline_not_mem_field _ _ (by decide)).mpr (hport s)
    · exact (newline_not_mem_field _ _ (by decide)).mpr (hport d)

theorem newline_not_mem_protocolName (f : Family) (t : Transport) :
    '\n' ∉ (protocolName f t).toList := by
  unfold protocolName
  split <;> decide +kernel

theorem newline_not_mem_anomalyLine (a : Anomaly) : '\n' ∉ (anomalyLine a).text.toList := by
  refine (newline_not_mem_field "WARNING" a.message (by decide)).mpr ?_
  cases a with
  | unsupportedTransport f t =>
    exact newline_not_mem_append
      (newline_not_mem_append (by decide) (newline_not_mem_protocolName f t)) (by decide)
  | unixAddress => decide
  | unknownExtension offset code =>
    exact newline_not_mem_append (newline_not_mem_append
      (newline_not_mem_append (by decide) (Digits.newline_not_mem_hexByte code)) (by decide))
      (Digits.newline_not_mem_decimal offset)
  | unknownSubtype offset code =>
    exact newline_not_mem_append (newline_not_mem_append
      (newline_not_mem_append (by decide) (Digits.newline_not_mem_hexByte code)) (by decide))
      (Digits.newline_not_mem_decimal offset)

/-- The lines in front of those for extensions show nothing that a peer can choose freely. -/
theorem newline_not_mem_opening (i : Info) {l : Line}
    (hl : l ∈ [.heading "PROXY v2 detected.", .field "Connection" "PROXYed connection detected",
      .field "Protocol" i.preamble.protocol] ++ endpointLines i.addresses.endpoints?) :
    '\n' ∉ l.text.toList := by
  rcases List.mem_append.mp hl with hl | hl
  · simp only [List.mem_cons, List.not_mem_nil, or_false] at hl
    rcases hl with rfl | rfl | rfl
    · decide
    · decide
    · exact (newline_not_mem_field _ _ (by decide)).mpr (newline_not_mem_protocolName _ _)
  · exact newline_not_mem_endpointLines hl

end Report

/-- The text of a kind of record is that of the bytes shown. -/
theorem SslInfo.text?_eq (kind : SubKind) (s : SslInfo) :
    s.text? kind = (s.textBytes? kind).map Utf8.lossy := by
  unfold text? textBytes?
  cases s.subExtensions.find? (·.kind = kind) with
  | none => rfl
  | some sub =>
    rw [Option.bind_some, Option.map_some]
    cases h : Utf8.decode? sub.payload with
    | none => simp [Option.filter, h]
    | some t => simp [Option.filter, h, Utf8.lossy_of_decode? h]

namespace Report

theorem newline_not_mem_optionalLine (label : String) (hlabel : '\n' ∉ label.toList)
    (o : Option Bytes) :
    (∀ l ∈ optionalLine label (o.map Utf8.lossy), '\n' ∉ l.text.toList) ↔
      ∀ bs ∈ o.toList, (0x0A : UInt8) ∉ bs := by
  cases o with
  | none => simp [optionalLine]
  | some bs =>
    simp only [optionalLine, Option.map_some, List.mem_singleton, forall_eq, Option.toList_some,
      newline_not_mem_field label _ hlabel, newline_mem_lossy_iff]

theorem newline_not_mem_sslLines (s : SslInfo) :
    (∀ l ∈ sslLines s, '\n' ∉ l.text.toList) ↔
      ∀ bs ∈ (s.textBytes? .version).toList ++ (s.textBytes? .cipher).toList,
        (0x0A : UInt8) ∉ bs := by
  have hclient : '\n' ∉ (Line.field "SSL client" (Digits.hex s.client.toNat)).text.toList :=
    (newline_not_mem_field _ _ (by decide)).mpr (Digits.not_mem_hex rfl _)
  have hverify : '\n' ∉ (Line.field "SSL verify" (Digits.hex s.verify.toNat)).text.toList :=
    (newline_not_mem_field _ _ (by decide)).mpr (Digits.not_mem_hex rfl _)
  have hversion := newline_not_mem_optionalLine "SSL version" (by decide)
    (s.textBytes? .version)
  have hcipher := newline_not_mem_optionalLine "SSL cipher" (by decide)
    (s.textBytes? .cipher)
  rw [sslLines, SslInfo.version?, SslInfo.cipher?, SslInfo.text?_eq, SslInfo.text?_eq]
  simp only [List.forall_mem_append, List.forall_mem_cons, hclient, hverify, hversion, hcipher,
    not_false_eq_true, true_and, List.not_mem_nil, false_imp_iff, implies_true]

/-- The lines for an extension are free of newlines if its bytes that are shown are free of
line feeds. -/
theorem newline_not_mem_extensionLines (e : Extension) :
    (∀ l ∈ extensionLines e, '\n' ∉ l.text.toList) ↔
      ∀ bs ∈ e.shown, (0x0A : UInt8) ∉ bs := by
  unfold extensionLines Extension.shown
  cases e.kind with
  | alpn =>
    simp only [List.forall_mem_singleton, newline_mem_lossy_iff,
      newline_not_mem_field "ALPN extension" _ (by decide)]
  | authority =>
    simp only [List.forall_mem_singleton, newline_mem_lossy_iff,
      newline_not_mem_field "Authority extension" _ (by decide)]
  | unknown code => simp
  | ssl =>
    cases e.ssl? with
    | none => simp
    | some s => exact newline_not_mem_sslLines s

/-- The lines of a report are free of newlines if the bytes that it shows are free of line
feeds. -/
theorem newline_not_mem_lines (i : Info) : (∀ l ∈ lines i, '\n' ∉ l.text.toList) ↔
    ∀ e ∈ i.extensions, ∀ bs ∈ e.shown, (0x0A : UInt8) ∉ bs := by
  have hopening := fun l => newline_not_mem_opening i (l := l)
  have hanomalies : ∀ l ∈ i.anomalies.map anomalyLine, '\n' ∉ l.text.toList := by
    intro l hl
    obtain ⟨a, -, rfl⟩ := List.mem_map.mp hl
    exact newline_not_mem_anomalyLine a
  have hextensions : (∀ l ∈ i.extensions.flatMap extensionLines, '\n' ∉ l.text.toList) ↔
      ∀ e ∈ i.extensions, ∀ bs ∈ e.shown, (0x0A : UInt8) ∉ bs := by
    rw [List.forall_mem_flatMap]
    exact forall₂_congr fun e _ => newline_not_mem_extensionLines e
  rw [lines, List.forall_mem_append, List.forall_mem_append, hextensions]
  exact ⟨fun h => h.1.2, fun h => ⟨⟨hopening, h⟩, hanomalies⟩⟩

/-! ## What a peer can make of a report -/

/-- A text report is what it seems exactly if the bytes that it shows are free of line
feeds. -/
theorem oneLineEach_iff (i : Info) : OneLineEach i ↔
    ∀ e ∈ i.extensions, ∀ bs ∈ e.shown, (0x0A : UInt8) ∉ bs := by
  have hlength : ((lines i).map Line.text).length = itemCount i := by
    rw [← length_labels, ← map_label_lines, List.length_map, List.length_map]
  have hcount : (text i).toList.count '\n' = itemCount i ↔ ∀ l ∈ lines i, '\n' ∉ l.text.toList := by
    rw [text_eq_unlines, ← hlength, count_unlines_eq_length_iff, List.forall_mem_map]
  rw [← newline_not_mem_lines, ← hcount]
  refine ⟨OneLineEach.count, fun h => ⟨h, (lines i).map Line.text, ?_, ?_⟩⟩
  · have hread := splitLines_unlines_append (List.forall_mem_map.mpr (hcount.mp h)) []
    rw [List.append_nil] at hread
    rw [text_eq_unlines, hread]
    rfl
  · rw [← map_label_lines]
    exact forall₂_opens (lines i)

/-- A header without a TLS record. Its ALPN value has a line feed in it, and behind that
what a report says of a client whose certificate was verified. -/
def forgingHeader : Header :=
  { tlsHeader with
    records := [.other ⟨0x01, [0x68, 0x32, 0x0A, 0x53, 0x53, 0x4C, 0x20, 0x76, 0x65, 0x72, 0x69,
      0x66, 0x79, 0x3A, 0x09, 0x30, 0x78, 0x30], by decide, by decide⟩ (by decide)]
    length_le := by decide }

/-- What is read of `forgingHeader`. -/
def forgingInfo : Info :=
  { tlsInfo with
    preamble := ⟨.proxy, .inet, .stream, 12, 21⟩
    extensions := [⟨.alpn, 28, [0x68, 0x32, 0x0A, 0x53, 0x53, 0x4C, 0x20, 0x76, 0x65, 0x72, 0x69,
      0x66, 0x79, 0x3A, 0x09, 0x30, 0x78, 0x30], none⟩] }

/-- A peer can add a line to a report, and have it say what only a TLS record is reported
to say. -/
theorem not_oneLineEach_forgingHeader :
    ∃ i, Info.read forgingHeader.encode = .ok i ∧ (∀ e ∈ i.extensions, e.kind ≠ .ssl) ∧
      splitLines (text i) = ["PROXY v2 detected.", "Connection:\tPROXYed connection detected",
        "Protocol:\tTCP over IPv4", "Source IP:\t192.0.2.1", "Destination IP:\t198.51.100.2",
        "Source port:\t12345", "Destination port:\t443", "ALPN extension:\th2",
        "SSL verify:\t0x0", ""] ∧
      (text i).toList.count '\n' = itemCount i + 1 ∧ ¬ OneLineEach i := by
  have hread : Info.read forgingHeader.encode = .ok forgingInfo := by decide +kernel
  have hlines : splitLines (text forgingInfo) = ["PROXY v2 detected.",
      "Connection:\tPROXYed connection detected", "Protocol:\tTCP over IPv4",
      "Source IP:\t192.0.2.1", "Destination IP:\t198.51.100.2", "Source port:\t12345",
      "Destination port:\t443", "ALPN extension:\th2", "SSL verify:\t0x0", ""] := by
    decide +kernel
  have hitems : itemCount forgingInfo = 8 := rfl
  have hcount : (text forgingInfo).toList.count '\n' = 9 := by
    have hlength := length_splitLines (text forgingInfo)
    rw [hlines] at hlength
    simp only [List.length_cons, List.length_nil] at hlength
    omega
  refine ⟨forgingInfo, hread, by decide, hlines, by rw [hcount, hitems], fun h => ?_⟩
  have hpromised := h.count
  rw [hcount, hitems] at hpromised
  omega

end Report

end ProxyHeader
