import ProxyHeader.Proofs.JsonReport
import ProxyHeader.Proofs.ValidText
import ProxyHeader.Proofs.Verdict

/-!
# The values that reports print

A report prints the value of an extension as text, whatever its bytes are.
`Report.jsonValue?` is the value that a JSON report shows for the extension at some position,
and `Report.ShowsValue` says that a text report shows a value for it, between what the report
says of the extensions in front of it and of those behind it.

The two print one text (`Report.printed_eq`). Where strict reading accepts the bytes it is the
text that they encode; elsewhere a replacement character shows that it is not.
-/

namespace ProxyHeader

namespace Report

/-! ## Where a value is printed -/

/-- The value that a JSON report shows for the extension at a position, as it is read back. -/
def jsonValue? (i : Info) (k : Nat) : Option Json :=
  match jsonField? "extensions" i with
  | some (.array es) => es[k]?.bind (Json.field? "value")
  | _ => none

/-- A text report shows a value behind a label for the extension at a position: in a line
that follows all that is said in front of it and that the lines for the rest follow. -/
def ShowsValue (i : Info) (k : Nat) (label value : String) : Prop :=
  text i = text { i with extensions := i.extensions.take k, anomalies := [] } ++
    (label ++ ":\t" ++ value ++ "\n") ++
    unlines ((otherLines { i with extensions := i.extensions.drop (k + 1) }).map Line.text)

theorem jsonValue?_eq {i : Info} {k : Nat} {e : Extension} (he : i.extensions[k]? = some e) :
    jsonValue? i k = some (.string (Utf8.lossy e.payload)) := by
  have hextensions : jsonField? "extensions" i =
      some (.array (i.extensions.map extensionJson)) := by
    rw [jsonField?_eq]
    rfl
  rw [jsonValue?, hextensions]
  show ((i.extensions.map extensionJson)[k]?).bind _ = _
  rw [List.getElem?_map, he]
  rfl

/-- Behind what is said of some extensions stand the lines for the others. -/
theorem text_of_extensions_eq {i : Info} {es fs : List Extension} (h : i.extensions = es ++ fs) :
    text i = text { i with extensions := es, anomalies := [] } ++
      unlines ((otherLines { i with extensions := fs }).map Line.text) := by
  rw [text_eq_unlines, text_eq_unlines, ← unlines_append, ← List.map_append, lines, lines,
    otherLines, h, List.flatMap_append, List.map_nil, List.append_nil]
  simp only [List.append_assoc]

/-- An extension that has one line is shown by it. -/
theorem showsValue_of_extensionLines {i : Info} {k : Nat} {e : Extension}
    (he : i.extensions[k]? = some e) {label value : String}
    (hline : extensionLines e = [.field label value]) : ShowsValue i k label value := by
  obtain ⟨hk, rfl⟩ := List.getElem?_eq_some_iff.mp he
  have hsplit : i.extensions = i.extensions.take k ++ i.extensions[k] ::
      i.extensions.drop (k + 1) := by
    rw [List.getElem_cons_drop, List.take_append_drop]
  have hothers : otherLines { i with extensions := i.extensions[k] :: i.extensions.drop (k + 1) } =
      .field label value :: otherLines { i with extensions := i.extensions.drop (k + 1) } := by
    rw [otherLines, otherLines, List.flatMap_cons, hline]
    rfl
  rw [ShowsValue, text_of_extensions_eq hsplit, hothers, List.map_cons, unlines_cons,
    ← String.append_assoc]
  rfl

/-! ## What is printed -/

/-- Strict reading of a value accepts exactly valid UTF-8 and gives the text that the bytes
encode. Both reports print one text for a value. Where strict reading accepts the bytes it is
that text, and elsewhere there is a replacement character in it and it encodes to other bytes.
Text in front of bytes that are not valid is printed as it is. -/
theorem printed_eq {i : Info} {k : Nat} {e : Extension} (he : i.extensions[k]? = some e) :
    (e.text?.isSome = true ↔ e.payload.toByteArray.IsValidUTF8) ∧
    (∀ s, e.text? = some s ↔ Utf8.encode s = e.payload) ∧
    (∃ value, jsonValue? i k = some (.string value) ∧
      (e.kind = .alpn → ShowsValue i k "ALPN extension" value) ∧
      (e.kind = .authority → ShowsValue i k "Authority extension" value) ∧
      (∀ s, e.text? = some s → value = s) ∧
      (e.text? = none → '\uFFFD' ∈ value.toList ∧ Utf8.encode value ≠ e.payload)) ∧
    ∀ (s : String) (bs : Bytes), Utf8.lossy (Utf8.encode s ++ bs) = s ++ Utf8.lossy bs := by
  refine ⟨Utf8.isSome_decode?_iff e.payload, fun s => Utf8.decode?_eq_some_iff,
    ⟨Utf8.lossy e.payload, jsonValue?_eq he, fun hkind => ?_, fun hkind => ?_,
      fun s hs => Utf8.lossy_of_decode? hs,
      fun hnone => ⟨Utf8.replacement_mem_lossy hnone, Utf8.encode_lossy_ne hnone⟩⟩,
    fun s bs => Utf8.lossy_append (Utf8.decode?_eq_some_iff.mpr rfl) bs⟩
  · exact showsValue_of_extensionLines he (by rw [extensionLines, hkind])
  · exact showsValue_of_extensionLines he (by rw [extensionLines, hkind])

/-- A value of three bytes in which a character is begun and not ended. -/
theorem printed_eq_brokenInfo : brokenInfo.extensions[0]? =
      some ⟨.alpn, 28, [0xF0, 0x90, 0x80], none⟩ ∧
    ∃ value, jsonValue? brokenInfo 0 = some (.string value) ∧
      ShowsValue brokenInfo 0 "ALPN extension" value ∧
      '\uFFFD' ∈ value.toList ∧ Utf8.encode value ≠ [0xF0, 0x90, 0x80] := by
  have he : brokenInfo.extensions[0]? = some ⟨.alpn, 28, [0xF0, 0x90, 0x80], none⟩ := rfl
  obtain ⟨-, -, ⟨value, hjson, hshows, -, -, hnone⟩, -⟩ := printed_eq he
  exact ⟨he, value, hjson, hshows rfl, hnone rfl⟩

end Report

end ProxyHeader
