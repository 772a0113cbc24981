import ProxyHeader.Proofs.Findings
import ProxyHeader.Proofs.TextReport

/-!
# Whether a connection is served

Whether a header's connection is served is decided by what was found odd about the
header, and is also said in its JSON report. Whether its endpoints are known shows in the
values of `Info.client?` and `Info.server?`, in lines 4 to 7 of the text report and in two
fields of the JSON report. `Report.Coherent` says that all of these agree.

They do for every accepted header (`Report.verdict`): the connections served are those
over TCP, the endpoints known those of all families but UNIX. Records of unknown kinds,
however many, do not count.
-/

namespace ProxyHeader

/-! ## What decides -/

/-- What is found about a connection, and not about a record in its header, stands at no
offset. -/
theorem Anomaly.isUnsupported_eq (a : Anomaly) : a.isUnsupported = a.offset?.isNone := by
  cases a <;> rfl

theorem Anomaly.InOrder.countP_isUnsupported {start stop : Nat} {as : List Anomaly}
    (h : InOrder start stop as) : as.countP (·.isUnsupported) = 0 := by
  refine List.countP_eq_zero.mpr fun a ha => ?_
  obtain ⟨o, ho, -⟩ := h.within a ha
  rw [a.isUnsupported_eq, ho]
  exact Bool.false_ne_true

/-- The endpoints of a served family are known unless they are socket paths. -/
theorem Addresses.OfFamily.isSome_endpoints? {f : Family} {a : Addresses} (ha : OfFamily f a)
    (hf : f ≠ .unspec) : a.endpoints?.isSome = true ↔ f ≠ .unix := by
  cases ha with
  | inet => simp [endpoints?]
  | inet6 => simp [endpoints?]
  | unix => simp [endpoints?]
  | unspec => exact absurd rfl hf

namespace Header.Describes

variable {h : Header} {i : Info}

theorem isSome_endpoints? (hi : h.Describes i) :
    i.addresses.endpoints?.isSome = true ↔ i.preamble.family ≠ .unix := by
  rw [hi.family.isSome_endpoints? h.family_ne_unspec, hi.preamble]
  rfl

/-- Datagrams and socket paths count, each once, and no record does. -/
theorem countP_isUnsupported (hi : h.Describes i) : i.anomalies.countP (·.isUnsupported) =
    (if i.preamble.transport = .datagram then 1 else 0) +
      (if i.preamble.family = .unix then 1 else 0) := by
  rw [hi.anomalies, Preamble.toList_warning?, hi.family.addressAnomalies_eq, List.countP_append,
    List.countP_append, (inOrder_anomaliesAt _ _).countP_isUnsupported, Nat.add_zero, hi.preamble]
  congr 1
  · split <;> rfl
  · split <;> simp_all [Header.preamble, Anomaly.isUnsupported]

theorem isSupported_iff (hi : h.Describes i) : i.isSupported = true ↔
    i.preamble.transport = .stream ∧ (i.preamble.family = .inet ∨ i.preamble.family = .inet6) := by
  have hcount : i.isSupported = true ↔ i.anomalies.countP (·.isUnsupported) = 0 := by
    rw [Info.isSupported, List.countP_eq_zero]
    simp
  have hfamily : i.preamble.family ≠ .unspec := hi.preamble ▸ h.family_ne_unspec
  have htransport : i.preamble.transport ≠ .unspec := hi.preamble ▸ h.transport_ne_unspec
  rw [hcount, hi.countP_isUnsupported]
  cases hf : i.preamble.family <;> cases ht : i.preamble.transport <;> simp_all

end Header.Describes

/-! ## Where it is said -/

namespace Report

/-- The field of a JSON report with a given name, as it is read back. -/
def jsonField? (name : String) (i : Info) : Option Json :=
  (Json.read? (json i).render).bind (Json.field? name)

/-- Lines 4 to 7 of a text report are those for both endpoints. -/
def ShowsEndpoints (i : Info) : Prop :=
  List.Forall₂ Opens endpointLabels (((splitLines (text i)).drop 3).take 4)

/-- All that is said about an accepted header agrees. -/
structure Coherent (i : Info) : Prop where
  supported : jsonField? "supported" i = some (.bool i.isSupported)
  client : i.client?.isSome = true ↔ i.preamble.family ≠ .unix
  server : i.server?.isSome = true ↔ i.preamble.family ≠ .unix
  lines : ShowsEndpoints i ↔ i.preamble.family ≠ .unix
  source : ∃ v, jsonField? "source" i = some v ∧ (v ≠ .null ↔ i.preamble.family ≠ .unix)
  destination : ∃ v, jsonField? "destination" i = some v ∧
    (v ≠ .null ↔ i.preamble.family ≠ .unix)
  unsupported : i.anomalies.countP (·.isUnsupported) =
    (if i.preamble.transport = .datagram then 1 else 0) +
      (if i.preamble.family = .unix then 1 else 0)

/-! ## In the JSON report -/

theorem jsonField?_eq (name : String) (i : Info) : jsonField? name i = (json i).field? name := by
  rw [jsonField?, Json.read?_render, Option.bind_some]

theorem ofText?_ne_null_iff {α : Type} {o : Option α} {f : α → String} :
    Json.ofText? (o.map f) ≠ .null ↔ o.isSome = true := by
  cases o <;> simp [Json.ofText?]

/-! ## In the text report -/

/-- The labels of lines behind those for endpoints. -/
def otherLabels : List String :=
  ["ALPN extension:\t", "Authority extension:\t", "SSL client:\t", "SSL verify:\t",
    "SSL version:\t", "SSL cipher:\t", "WARNING:\t"]

/-- No line opens with one of these and with the label of the first endpoint. -/
theorem not_isPrefix_otherLabels : ∀ label ∈ otherLabels, '\n' ∉ label.toList ∧
    ¬ "Source IP:\t".toList <+: label.toList ∧ ¬ label.toList <+: "Source IP:\t".toList := by
  decide +kernel

theorem extensionLabels_subset (e : Extension) : extensionLabels e ⊆ otherLabels := by
  unfold extensionLabels
  cases e.kind with
  | ssl =>
    cases e.ssl? with
    | none => exact List.nil_subset _
    | some s =>
      show sslLabels s ⊆ otherLabels
      unfold sslLabels
      generalize s.version?.isSome = version, s.cipher?.isSome = cipher
      cases version <;> cases cipher <;> decide
  | unknown code => exact List.nil_subset _
  | alpn =>
    show ["ALPN extension:\t"] ⊆ otherLabels
    decide
  | authority =>
    show ["Authority extension:\t"] ⊆ otherLabels
    decide

/-- The lines behind those for endpoints. -/
def otherLines (i : Info) : List Line :=
  i.extensions.flatMap extensionLines ++ i.anomalies.map anomalyLine

theorem label_mem_otherLabels {i : Info} {l : Line} (hl : l ∈ otherLines i) :
    l.label ∈ otherLabels := by
  rcases List.mem_append.mp hl with hl | hl
  · obtain ⟨e, -, hl⟩ := List.mem_flatMap.mp hl
    have hlabel : l.label ∈ (extensionLines e).map Line.label := List.mem_map_of_mem hl
    rw [map_label_extensionLines] at hlabel
    exact extensionLabels_subset e hlabel
  · obtain ⟨a, -, rfl⟩ := List.mem_map.mp hl
    show "WARNING:\t" ∈ otherLabels
    decide

theorem drop_splitLines_text (i : Info) : (splitLines (text i)).drop 3 =
    (endpointLines i.addresses.endpoints?).map Line.text ++
      splitLines (unlines ((otherLines i).map Line.text)) := by
  rw [text_eq_unlines, lines, List.append_assoc, List.map_append,
    splitLines_unlines_append (List.forall_mem_map.mpr fun l => newline_not_mem_opening i)]
  rfl

/-- A text opens with the label of its first line. -/
theorem exists_splitLines_unlines_eq_cons {l : Line} (hl : '\n' ∉ l.label.toList)
    (ls : List String) : ∃ line rest, splitLines (unlines (l.text :: ls)) = line :: rest ∧
      Opens l.label line := by
  obtain ⟨value, hvalue⟩ := l.opens_label
  have htext : (unlines (l.text :: ls)).toList =
      l.label.toList ++ (value ++ ("\n" ++ unlines ls).toList) := by
    rw [unlines_cons, String.append_assoc, String.toList_append, ← hvalue, List.append_assoc]
  exact exists_splitLines_eq_cons hl htext

/-- Endpoints are shown in lines 4 to 7, and nothing else can seem to be. -/
theorem showsEndpoints_iff (i : Info) :
    ShowsEndpoints i ↔ i.addresses.endpoints?.isSome = true := by
  rw [ShowsEndpoints, drop_splitLines_text]
  cases hendpoints : i.addresses.endpoints? with
  | some pair =>
    refine iff_of_true ?_ rfl
    have hlabels : endpointLabels = (endpointLines (some pair)).map Line.label := rfl
    have htake : ∀ ls, ((endpointLines (some pair)).map Line.text ++ ls).take 4 =
        (endpointLines (some pair)).map Line.text := fun _ => rfl
    rw [htake, hlabels]
    exact forall₂_opens _
  | none =>
    refine iff_of_false (fun hshown => ?_) Bool.false_ne_true
    cases hlines : otherLines i with
    | nil =>
      rw [hlines] at hshown
      exact absurd hshown.length_eq (by decide)
    | cons l ls =>
      obtain ⟨hnewline, hsource, hsource'⟩ := not_isPrefix_otherLabels l.label
        (label_mem_otherLabels (i := i) (hlines ▸ List.mem_cons_self))
      obtain ⟨line, rest, hsplit, hopens⟩ :=
        exists_splitLines_unlines_eq_cons hnewline (ls.map Line.text)
      rw [hlines, List.map_cons, hsplit] at hshown
      cases hshown with
      | cons hline _ =>
        rcases List.prefix_or_prefix_of_prefix hline hopens with h | h
        · exact hsource h
        · exact hsource' h

/-! ## The verdict -/

theorem coherent_of_describes {h : Header} {i : Info} (hi : h.Describes i) : Coherent i where
  supported := by
    rw [jsonField?_eq]
    rfl
  client := by
    rw [Info.client?, Option.isSome_map, hi.isSome_endpoints?]
  server := by
    rw [Info.server?, Option.isSome_map, hi.isSome_endpoints?]
  lines := (showsEndpoints_iff i).trans hi.isSome_endpoints?
  source := by
    refine ⟨_, jsonField?_eq "source" i, ?_⟩
    rw [ofText?_ne_null_iff, Info.client?, Option.isSome_map, hi.isSome_endpoints?]
  destination := by
    refine ⟨_, jsonField?_eq "destination" i, ?_⟩
    rw [ofText?_ne_null_iff, Info.server?, Option.isSome_map, hi.isSome_endpoints?]
  unsupported := hi.countP_isUnsupported

/-- The connections that are served are those over TCP, whatever records the header has,
and all that is said about an accepted header agrees. -/
theorem verdict (buf : Bytes) :
    (Info.accepts (Info.read buf) = true ↔ ∃ i, Info.read buf = .ok i ∧
      i.preamble.transport = .stream ∧
      (i.preamble.family = .inet ∨ i.preamble.family = .inet6)) ∧
    ∀ i, Info.read buf = .ok i →
      Info.accepts (Info.read buf) = i.isSupported ∧ Coherent i := by
  refine ⟨⟨fun h => ?_, ?_⟩, fun i hi => ⟨by rw [hi]; rfl, ?_⟩⟩
  · cases hread : Info.read buf with
    | error e =>
      rw [hread] at h
      exact absurd h Bool.false_ne_true
    | ok i =>
      obtain ⟨header, t, -, hi⟩ := Info.read_eq_ok_iff.mp hread
      rw [hread] at h
      exact ⟨i, rfl, hi.isSupported_iff.mp h⟩
  · rintro ⟨i, hread, hserved⟩
    obtain ⟨header, t, -, hi⟩ := Info.read_eq_ok_iff.mp hread
    rw [hread]
    exact hi.isSupported_iff.mpr hserved
  · obtain ⟨header, t, -, hi⟩ := Info.read_eq_ok_iff.mp hi
    exact coherent_of_describes hi

end Report

end ProxyHeader
