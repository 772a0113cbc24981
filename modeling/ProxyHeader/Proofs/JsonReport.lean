import Mathlib.Data.List.Forall2
import ProxyHeader.Proofs.AddressText
import ProxyHeader.Proofs.JsonReader
import ProxyHeader.Proofs.RoundTrip
import ProxyHeader.Proofs.Utf8
import ProxyHeader.Report

/-!
# What a JSON report keeps

A JSON report can be read back, and the texts in it determine what they are the texts of.
So two headers have one JSON report exactly if they are alike (`Report.json_eq_iff`): the
same preamble, endpoints and messages, and extensions that differ at most in bytes that
are not valid text and in what is not shown of a TLS value.

A text report shows nothing else (`Report.text_eq_of_json_eq`). Where all values of
extensions are valid text and endpoints are shown, nothing of a header is lost: its bytes
are determined by its JSON report (`Report.take_eq_of_json_eq`).
-/

namespace ProxyHeader

/-! ## Names -/

theorem Command.name_inj {c d : Command} : c.name = d.name ↔ c = d := by
  cases c <;> cases d <;> decide

theorem Family.name_inj {f g : Family} : f.name = g.name ↔ f = g := by
  cases f <;> cases g <;> decide

theorem Transport.name_inj {t u : Transport} : t.name = u.name ↔ t = u := by
  cases t <;> cases u <;> decide

/-- A name is shared by the kinds that are not decoded, which have their own codes. -/
theorem ExtensionKind.eq_iff {k l : ExtensionKind} :
    k = l ↔ k.name = l.name ∧ k.code = l.code := by
  cases k <;> cases l <;> simp [name, code]

theorem Preamble.eq_iff {p q : Preamble} : p = q ↔ p.command = q.command ∧
    p.family = q.family ∧ p.transport = q.transport ∧ p.blockLength = q.blockLength ∧
    p.extensionsLength = q.extensionsLength := by
  cases p
  cases q
  simp

theorem Json.ofText?_inj {o p : Option String} : ofText? o = ofText? p ↔ o = p := by
  cases o <;> cases p <;> simp [ofText?]

/-! ## Headers alike -/

namespace Report

/-- Two extensions that differ at most in bytes that are not valid text and in what is not
shown of a TLS value. -/
structure SameExtension (e f : Extension) : Prop where
  kind : e.kind = f.kind
  offset : e.offset = f.offset
  length : e.length = f.length
  text : Utf8.lossy e.payload = Utf8.lossy f.payload
  ssl : e.ssl?.map sslJson = f.ssl?.map sslJson

/-- Two headers that differ at most in bytes that are not valid text and in what is not
shown of TLS values. -/
structure Alike (i j : Info) : Prop where
  preamble : i.preamble = j.preamble
  endpoints : i.addresses.endpoints? = j.addresses.endpoints?
  extensions : List.Forall₂ SameExtension i.extensions j.extensions
  messages : i.anomalies.map Anomaly.message = j.anomalies.map Anomaly.message
  supported : i.isSupported = j.isSupported

theorem sslJson_eq_iff {s t : SslInfo} : sslJson s = sslJson t ↔
    s.client = t.client ∧ s.verify = t.verify ∧ s.version? = t.version? ∧
      s.cipher? = t.cipher? := by
  simp only [sslJson, Json.object.injEq, List.cons.injEq, Prod.mk.injEq, true_and, and_true,
    Json.number.injEq, Json.bool.injEq, Json.ofText?_inj, UInt8.toNat_inj, UInt32.toNat_inj]
  refine and_congr_right fun hclient => and_congr_right fun _ => ?_
  simp only [SslInfo.clientSsl, SslInfo.clientCertConnection, SslInfo.clientCertSession, hclient,
    true_and]

theorem extensionJson_eq_iff {e f : Extension} :
    extensionJson e = extensionJson f ↔ SameExtension e f := by
  have hssl : (e.ssl?.map fun s => ("ssl", sslJson s)).toList =
      (f.ssl?.map fun s => ("ssl", sslJson s)).toList ↔
      e.ssl?.map sslJson = f.ssl?.map sslJson := by
    cases e.ssl? <;> cases f.ssl? <;> simp
  simp only [extensionJson, Json.object.injEq, List.cons_append, List.nil_append,
    List.cons.injEq, Prod.mk.injEq, true_and, Json.number.injEq, Json.string.injEq,
    UInt8.toNat_inj, hssl]
  rw [← and_assoc, ← ExtensionKind.eq_iff]
  exact ⟨fun ⟨hkind, hoffset, hlength, htext, hssl⟩ => ⟨hkind, hoffset, hlength, htext, hssl⟩,
    fun h => ⟨h.kind, h.offset, h.length, h.text, h.ssl⟩⟩

theorem endpoints?_eq_iff {i j : Info} :
    i.addresses.endpoints? = j.addresses.endpoints? ↔
      i.client?.map (·.text) = j.client?.map (·.text) ∧
        i.server?.map (·.text) = j.server?.map (·.text) := by
  have htext : ∀ {e f : Endpoint}, e.text = f.text ↔ e = f :=
    ⟨Endpoint.text_inj, fun h => h ▸ rfl⟩
  unfold Info.client? Info.server?
  cases i.addresses.endpoints? <;> cases j.addresses.endpoints? <;> simp [htext, Prod.ext_iff]

/-- Two headers have one JSON report exactly if they are alike. -/
theorem json_eq_iff {i j : Info} : json i = json j ↔ Alike i j := by
  have hextensions : i.extensions.map extensionJson = j.extensions.map extensionJson ↔
      List.Forall₂ SameExtension i.extensions j.extensions := by
    rw [← List.forall₂_eq_eq_eq, List.forall₂_map_left_iff, List.forall₂_map_right_iff]
    simp only [extensionJson_eq_iff]
  have hmessages : (i.anomalies.map fun a => Json.string a.message) =
      (j.anomalies.map fun a => Json.string a.message) ↔
      i.anomalies.map Anomaly.message = j.anomalies.map Anomaly.message := by
    have hstrings : ∀ as : List Anomaly, (as.map fun a => Json.string a.message) =
        (as.map Anomaly.message).map Json.string := fun _ => List.map_map.symm
    rw [hstrings, hstrings]
    exact List.map_inj_right fun _ _ => Json.string.inj
  simp only [json, Json.object.injEq, List.cons.injEq, Prod.mk.injEq, true_and, and_true,
    Json.string.injEq, Json.number.injEq, Json.bool.injEq, Json.array.injEq, Json.ofText?_inj,
    Command.name_inj, Family.name_inj, Transport.name_inj, hextensions, hmessages]
  constructor
  · rintro ⟨hcommand, hfamily, htransport, -, hblock, hlength, hclient, hserver, hes, has, hok⟩
    exact ⟨Preamble.eq_iff.mpr ⟨hcommand, hfamily, htransport, hblock, hlength⟩,
      endpoints?_eq_iff.mpr ⟨hclient, hserver⟩, hes, has, hok⟩
  · rintro ⟨hpreamble, hendpoints, hes, has, hok⟩
    obtain ⟨hcommand, hfamily, htransport, hblock, hlength⟩ := Preamble.eq_iff.mp hpreamble
    obtain ⟨hclient, hserver⟩ := endpoints?_eq_iff.mp hendpoints
    exact ⟨hcommand, hfamily, htransport, congrArg Preamble.protocol hpreamble, hblock, hlength,
      hclient, hserver, hes, has, hok⟩

/-! ## From one report to the other -/

/-- Two lists of extensions that are alike one by one make the same of each. -/
theorem flatMap_eq_of_forall₂ {β : Type} {f : Extension → List β} {es fs : List Extension}
    (h : List.Forall₂ SameExtension es fs)
    (hf : ∀ a ∈ es, ∀ b ∈ fs, SameExtension a b → f a = f b) : es.flatMap f = fs.flatMap f := by
  induction h with
  | nil => rfl
  | @cons a b es fs hab _ ih =>
    rw [List.flatMap_cons, List.flatMap_cons,
      hf a List.mem_cons_self b List.mem_cons_self hab,
      ih fun x hx y hy => hf x (List.mem_cons_of_mem a hx) y (List.mem_cons_of_mem b hy)]

theorem sslLines_eq_of_sslJson_eq {s t : SslInfo} (h : sslJson s = sslJson t) :
    sslLines s = sslLines t := by
  obtain ⟨hclient, hverify, hversion, hcipher⟩ := sslJson_eq_iff.mp h
  rw [sslLines, sslLines, hclient, hverify, hversion, hcipher]

theorem SameExtension.extensionLines_eq {e f : Extension} (h : SameExtension e f) :
    extensionLines e = extensionLines f := by
  unfold extensionLines
  rw [h.kind, h.text]
  cases f.kind with
  | ssl =>
    have hssl := h.ssl
    cases he : e.ssl? <;> cases hf : f.ssl?
    case none.none => rfl
    case some.some s t =>
      rw [he, hf] at hssl
      exact sslLines_eq_of_sslJson_eq (Option.some.inj hssl)
    all_goals
      rw [he, hf] at hssl
      nomatch hssl
  | _ => rfl

/-- What a text report shows is in the JSON report, however the header was made up. -/
theorem text_eq_of_json_eq {i j : Info} (h : (json i).render = (json j).render) :
    text i = text j := by
  have hsame : Alike i j := json_eq_iff.mp (Json.render_inj h)
  have hextensions : i.extensions.flatMap extensionLines = j.extensions.flatMap extensionLines :=
    flatMap_eq_of_forall₂ hsame.extensions fun _ _ _ _ he => he.extensionLines_eq
  have hanomalies : i.anomalies.map anomalyLine = j.anomalies.map anomalyLine := by
    have hlines : ∀ as : List Anomaly, as.map anomalyLine =
        (as.map Anomaly.message).map (Line.field "WARNING") := fun _ => List.map_map.symm
    rw [hlines, hlines, hsame.messages]
  rw [text, text, lines, lines, hsame.preamble, hsame.endpoints, hextensions, hanomalies]

/-- What is read of a header whose ALPN value is the replacement character. -/
def replacedInfo : Info :=
  { tlsInfo with
    preamble := ⟨.proxy, .inet, .stream, 12, 6⟩
    extensions := [⟨.alpn, 28, [0xEF, 0xBF, 0xBD], none⟩] }

/-- What is read of a header whose ALPN value is as long and not valid text. -/
def brokenInfo : Info :=
  { replacedInfo with extensions := [⟨.alpn, 28, [0xF0, 0x90, 0x80], none⟩] }

theorem text_eq_of_json_eq_brokenInfo : brokenInfo ≠ replacedInfo ∧
    (json brokenInfo).render = (json replacedInfo).render ∧
    text brokenInfo = text replacedInfo := by
  have h : json brokenInfo = json replacedInfo := rfl
  exact ⟨by decide, congrArg Json.render h, text_eq_of_json_eq (congrArg Json.render h)⟩

/-! ## From the report to the header -/

theorem SameExtension.encode_eq {e f : Extension} (h : SameExtension e f)
    (he : e.text?.isSome = true) (hf : f.text?.isSome = true) : e.encode = f.encode := by
  rw [Extension.encode, Extension.encode, h.kind, Utf8.lossy_inj he hf h.text]

end Report

/-- The addresses of a family are determined by the endpoints. -/
theorem Addresses.OfFamily.eq_of_endpoints? {f : Family} {a b : Addresses} (ha : OfFamily f a)
    (hb : OfFamily f b) (h : a.endpoints? = b.endpoints?) : a = b := by
  cases ha <;> cases hb <;> simp_all [endpoints?]

namespace Report

/-- The header that a JSON report is about is determined by it, if endpoints are shown and
the values of all extensions are valid text. -/
theorem take_eq_of_json_eq {a b : Bytes} {i j : Info} (ha : Info.read a = .ok i)
    (hb : Info.read b = .ok j) (hfamily : i.preamble.family ≠ .unix)
    (hi : ∀ e ∈ i.extensions, e.text?.isSome = true)
    (hj : ∀ e ∈ j.extensions, e.text?.isSome = true)
    (h : (json i).render = (json j).render) :
    i.preamble.totalLength = j.preamble.totalLength ∧
      a.take i.preamble.totalLength = b.take j.preamble.totalLength := by
  have hsame : Alike i j := json_eq_iff.mp (Json.render_inj h)
  refine ⟨congrArg Preamble.totalLength hsame.preamble, ?_⟩
  obtain ⟨header, t, rfl, hdi⟩ := Info.read_eq_ok_iff.mp ha
  obtain ⟨header', t', rfl, hdj⟩ := Info.read_eq_ok_iff.mp hb
  have hfamilies : header.family = header'.family := congrArg Preamble.family
    (hdi.preamble.symm.trans (hsame.preamble.trans hdj.preamble))
  have haddresses : i.addresses = j.addresses :=
    hdi.family.eq_of_endpoints? (hfamilies ▸ hdj.family) hsame.endpoints
  have hextensions : i.extensions.flatMap Extension.encode =
      j.extensions.flatMap Extension.encode :=
    flatMap_eq_of_forall₂ hsame.extensions fun e he f hf hef =>
      hef.encode_eq (hi e he) (hj f hf)
  have hencode : i.encode [] = j.encode [] := by
    rw [Info.encode, Info.encode, hsame.preamble, haddresses, hextensions]
  rw [hdi.preamble] at hfamily
  rw [hdi.preamble, hdj.preamble, header.encode_append_take, header'.encode_append_take,
    ← hdi.encode_eq_encode hfamily [], hencode,
    hdj.encode_eq_encode (hfamilies ▸ hfamily) []]

theorem take_eq_of_json_eq_tlsHeader :
    tlsHeader.encode ++ [0x47] ≠ tlsHeader.encode ++ [0x48] ∧
      Info.read (tlsHeader.encode ++ [0x47]) = .ok tlsInfo ∧
      Info.read (tlsHeader.encode ++ [0x48]) = .ok tlsInfo ∧
      (tlsHeader.encode ++ [0x47]).take 46 = (tlsHeader.encode ++ [0x48]).take 46 := by
  have ha : Info.read (tlsHeader.encode ++ [0x47]) = .ok tlsInfo := by decide +kernel
  have hb : Info.read (tlsHeader.encode ++ [0x48]) = .ok tlsInfo := by decide +kernel
  have htext : ∀ e ∈ tlsInfo.extensions, e.text?.isSome = true := by decide +kernel
  obtain ⟨-, htake⟩ := take_eq_of_json_eq ha hb (by decide) htext htext rfl
  exact ⟨by decide, ha, hb, htake⟩

end Report

end ProxyHeader
