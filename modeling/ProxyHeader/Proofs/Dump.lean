import ProxyHeader.Proofs.JsonReader
import ProxyHeader.Proofs.Lines
import ProxyHeader.Proofs.Stream
import ProxyHeader.Proofs.Phases
import ProxyHeader.Report

/-!
# The bytes shown with a refusal

When a record is at fault, the declared records are shown with the error: as tokens in
hexadecimal on a second line of text, and as an array of numbers in the object.

`Info.extensionBytes?_of_read` says that these bytes are those that the error is about.
To say what is shown, reports are read back, a line of text by the tokens in it
(`Report.readDump`) and an object by the reader of JSON. Both show the same bytes, for any
error and any buffer (`Report.splitLines_errorText_of_some`, `Report.field?_errorJson`),
and where there are none to show, the text is one line (`Report.errorText_of_none`).
-/

namespace ProxyHeader

/-! ## Which bytes are shown -/

namespace Info

theorem extensionBytes?_eq_some_iff {e : HeaderError} {buf bytes : Bytes} :
    extensionBytes? e buf = some bytes ↔ e.isExtensionError = true ∧
      ∃ p, Preamble.read buf = .ok p ∧
        bytes = buf.extract p.extensionsOffset p.totalLength := by
  have hregion : ∀ p : Preamble, (buf.take p.totalLength).drop (preambleLength + p.blockLength) =
      buf.extract p.extensionsOffset p.totalLength := fun p => by
    rw [List.drop_take, List.extract_eq_take_drop]
    rfl
  unfold extensionBytes?
  split
  next hext =>
    cases hp : Preamble.read buf with
    | ok p => simp [hext, hregion, eq_comm]
    | error e' => simp
  next hext => simp [hext]

/-- The bytes behind a header do not change what is shown of it. -/
theorem extensionBytes?_append {e : HeaderError} {buf bytes : Bytes}
    (h : extensionBytes? e buf = some bytes) (t : Bytes) :
    extensionBytes? e (buf ++ t) = some bytes := by
  obtain ⟨hext, p, hp, rfl⟩ := extensionBytes?_eq_some_iff.mp h
  refine extensionBytes?_eq_some_iff.mpr ⟨hext, p, Preamble.read_append hp t, ?_⟩
  rw [extract_append_of_le (Preamble.totalLength_le_of_read hp)]

/-- For the error that a header is refused with, the declared records are shown exactly if
it is about them, and then there are some. -/
theorem extensionBytes?_of_read {buf : Bytes} {e : HeaderError} (he : read buf = .error e) :
    ((extensionBytes? e buf).isSome = true ↔ e.isExtensionError = true) ∧
      ∀ bytes, extensionBytes? e buf = some bytes → bytes ≠ [] ∧
        ∃ p, Preamble.read buf = .ok p ∧
          bytes = buf.extract p.extensionsOffset p.totalLength ∧
          ∀ o, e.offset? = some o → p.extensionsOffset ≤ o ∧ o < p.totalLength := by
  constructor
  · rw [Option.isSome_iff_exists]
    constructor
    · rintro ⟨bytes, hbytes⟩
      exact (extensionBytes?_eq_some_iff.mp hbytes).1
    · intro hext
      obtain ⟨p, hp⟩ := (isExtensionError_iff_of_read he).mp hext
      exact ⟨_, extensionBytes?_eq_some_iff.mpr ⟨hext, p, hp, rfl⟩⟩
  · intro bytes hbytes
    obtain ⟨-, p, hp, rfl⟩ := extensionBytes?_eq_some_iff.mp hbytes
    refine ⟨?_, p, hp, rfl, (isAbout_of_read_eq_error hp he).offset⟩
    obtain ⟨q, hq, -⟩ := (read_eq_error_iff hp).mp he
    have hstart := hq.start_le
    have hstop := hq.lt_stop
    rw [← List.length_pos_iff, length_extract (Preamble.totalLength_le_of_read hp)]
    omega

end Info

/-! ## Tokens and messages -/

namespace Digits

theorem not_mem_hex {c : Char} (hc : c.isAlphanum = false) (n : Nat) : c ∉ (hex n).toList :=
  fun h => Bool.noConfusion ((isAlphanum_of_mem_hex h).symm.trans hc)

/-- The number that a token writes as `0x` and hexadecimal digits. -/
def hexToken? : List Char → Option Nat
  | '0' :: 'x' :: cs =>
    match span 16 cs with
    | (d :: ds, []) => some (value 16 (d :: ds))
    | _ => none
  | _ => none

theorem hexToken?_hex (n : Nat) : hexToken? (hex n).toList = some n := by
  obtain ⟨d, ds, hvalue, -, hspan⟩ := span_toDigits (show 1 < 16 by decide) (Nat.le_refl 16) n
  have hdigits : span 16 (Nat.toDigits 16 n) = (d :: ds, []) := by
    have h := hspan []
    rwa [List.append_nil, span, List.append_nil] at h
  rw [hex, String.toList_ofList, hexToken?, hdigits]
  exact congrArg some hvalue

end Digits

@[simp]
theorem Digits.newline_not_mem_decimal (n : Nat) : '\n' ∉ (decimal n).toList := fun h =>
  absurd (isAlphanum_of_mem_decimal h) (by decide)

@[simp]
theorem Digits.newline_not_mem_hexByte (b : UInt8) : '\n' ∉ (hexByte b).toList := fun h =>
  absurd (isAlphanum_of_mem_hexByte h) (by decide)

/-- A message is one line. -/
theorem HeaderError.newline_not_mem_message (e : HeaderError) : '\n' ∉ e.message.toList := by
  unfold message
  cases e with
  | badCommand byte =>
    dsimp only
    split
    · decide
    · simp
  | _ => simp

/-! ## What is shown -/

namespace Report

/-- The numbers that the hexadecimal tokens of a line write. -/
def readDump (line : String) : List Nat :=
  (line.toList.splitOn ' ').filterMap Digits.hexToken?

theorem toList_dump (bytes : Bytes) :
    (dump bytes).toList = bytes.flatMap fun b => ' ' :: (Digits.hex b.toNat).toList := by
  rw [dump, String.toList_join, List.flatMap_map]
  refine List.flatMap_congr fun b _ => ?_
  rw [String.toList_append]
  rfl

/-- Dumped bytes are read back from the line that they are shown on. -/
theorem readDump_dump (bytes : Bytes) :
    readDump ("Extensions data:" ++ dump bytes) = bytes.map UInt8.toNat := by
  have hwords : ("Extensions data:" ++ dump bytes).toList =
      [' '].intercalate ("Extensions".toList :: "data:".toList ::
        bytes.map fun b => (Digits.hex b.toNat).toList) := by
    rw [intercalate_singleton_cons, List.flatMap_cons, List.flatMap_map, String.toList_append,
      toList_dump]
    rfl
  have hspace : ∀ w ∈ "Extensions".toList :: "data:".toList ::
      bytes.map (fun b => (Digits.hex b.toNat).toList), ' ' ∉ w := by
    intro w hw
    rcases List.mem_cons.mp hw with rfl | hw
    · decide
    rcases List.mem_cons.mp hw with rfl | hw
    · decide
    · obtain ⟨b, -, rfl⟩ := List.mem_map.mp hw
      exact Digits.not_mem_hex rfl b.toNat
  -- the two words of the label write no number
  have hfirst : Digits.hexToken? "Extensions".toList = none := rfl
  have hsecond : Digits.hexToken? "data:".toList = none := rfl
  rw [readDump, hwords, List.splitOn_intercalate ' ' hspace (List.cons_ne_nil _ _),
    List.filterMap_cons_none hfirst, List.filterMap_cons_none hsecond, List.filterMap_map]
  simp only [Function.comp_def, Digits.hexToken?_hex]
  rw [List.filterMap_eq_map']

example : readDump "Extensions data: 0x2 0x10" = [2, 16] := by decide +kernel

theorem newline_not_mem_dump (bytes : Bytes) :
    '\n' ∉ ("Extensions data:" ++ dump bytes).toList := by
  rw [String.toList_append, toList_dump, List.mem_append, not_or]
  refine ⟨by decide, fun h => ?_⟩
  obtain ⟨b, -, hb⟩ := List.mem_flatMap.mp h
  rcases List.mem_cons.mp hb with heq | hb
  · exact absurd heq (by decide)
  · exact Digits.not_mem_hex rfl b.toNat hb

/-- The line that says what is wrong. -/
theorem newline_not_mem_first (e : HeaderError) : '\n' ∉ ("ERROR:\t" ++ e.message).toList := by
  rw [String.toList_append, List.mem_append, not_or]
  exact ⟨by decide, e.newline_not_mem_message⟩

/-- Where there are bytes to show, they are on a second line. -/
theorem splitLines_errorText_of_some {e : HeaderError} {buf bytes : Bytes}
    (h : Info.extensionBytes? e buf = some bytes) :
    splitLines (errorText e buf) =
      ["ERROR:\t" ++ e.message, "Extensions data:" ++ dump bytes] := by
  have hlabel : "\nExtensions data:" = "\n" ++ "Extensions data:" := by decide
  have htext : errorText e buf =
      "ERROR:\t" ++ e.message ++ "\n" ++ ("Extensions data:" ++ dump bytes) := by
    simp only [errorText, h, hlabel, String.append_assoc]
  rw [htext, splitLines_append (newline_not_mem_first e),
    splitLines_of_not_mem (newline_not_mem_dump bytes)]

theorem errorText_of_none {e : HeaderError} {buf : Bytes}
    (h : Info.extensionBytes? e buf = none) : errorText e buf = "ERROR:\t" ++ e.message := by
  rw [errorText, h]

/-- The bytes are a field of the object that a refusal is to a program. -/
theorem field?_errorJson (e : HeaderError) (buf : Bytes) :
    (errorJson e buf).field? "data" = (Info.extensionBytes? e buf).map fun bytes =>
      .array (bytes.map fun b => .number b.toNat) := by
  rw [errorJson]
  cases Info.extensionBytes? e buf <;> rfl

/-- What is shown of the records with a refusal.

For the error that a header is refused with, the declared records are shown exactly if it
is about them. They are some bytes then, the same whatever follows the header, and the
offset that the error names is one of theirs.

For any error and any bytes, the text has a second line exactly if the object has a field
for the data, and exactly if the error is about records and the preamble is valid. The
tokens on that line and the numbers in the field are then the declared records. Otherwise
the text is one line, the label and the message. -/
theorem refusal_dump :
    (∀ buf e, Info.read buf = .error e →
      ((Info.extensionBytes? e buf).isSome = true ↔ e.isExtensionError = true) ∧
      ∀ bytes, Info.extensionBytes? e buf = some bytes → bytes ≠ [] ∧
        (∀ t, Info.extensionBytes? e (buf ++ t) = some bytes) ∧
        ∃ p, Preamble.read buf = .ok p ∧
          bytes = buf.extract p.extensionsOffset p.totalLength ∧
          ∀ o, e.offset? = some o → p.extensionsOffset ≤ o ∧ o < p.totalLength) ∧
    ∀ (e : HeaderError) (buf : Bytes), ∃ v, Json.read? (errorJson e buf).render = some v ∧
      ((splitLines (errorText e buf)).length = 2 ↔ (v.field? "data").isSome = true) ∧
      ((v.field? "data").isSome = true ↔
        e.isExtensionError = true ∧ ∃ p, Preamble.read buf = .ok p) ∧
      (∀ p, e.isExtensionError = true → Preamble.read buf = .ok p → ∃ line,
        splitLines (errorText e buf) = ["ERROR:\t" ++ e.message, line] ∧
        readDump line = (buf.extract p.extensionsOffset p.totalLength).map UInt8.toNat ∧
        v.field? "data" = some (.array ((readDump line).map .number))) ∧
      (¬ (e.isExtensionError = true ∧ ∃ p, Preamble.read buf = .ok p) →
        errorText e buf = "ERROR:\t" ++ e.message ∧
        splitLines (errorText e buf) = ["ERROR:\t" ++ e.message]) := by
  constructor
  · intro buf e he
    obtain ⟨hiff, hbytes⟩ := Info.extensionBytes?_of_read he
    refine ⟨hiff, fun bytes h => ?_⟩
    obtain ⟨hne, hregion⟩ := hbytes bytes h
    exact ⟨hne, Info.extensionBytes?_append h, hregion⟩
  · intro e buf
    refine ⟨_, Json.read?_render _, ?_⟩
    rw [field?_errorJson]
    cases h : Info.extensionBytes? e buf with
    | some bytes =>
      obtain ⟨hext, p, hp, rfl⟩ := Info.extensionBytes?_eq_some_iff.mp h
      rw [splitLines_errorText_of_some h]
      refine ⟨by simp, by simp [hext, hp], fun p' _ hp' => ?_, fun hnot => ?_⟩
      · obtain rfl := Except.ok.inj (hp.symm.trans hp')
        refine ⟨_, rfl, readDump_dump _, ?_⟩
        rw [readDump_dump, List.map_map]
        rfl
      · exact absurd ⟨hext, p, hp⟩ hnot
    | none =>
      have hnot : ¬ (e.isExtensionError = true ∧ ∃ p, Preamble.read buf = .ok p) := by
        rintro ⟨hext, p, hp⟩
        have hsome := Info.extensionBytes?_eq_some_iff.mpr ⟨hext, p, hp, rfl⟩
        simp [h] at hsome
      have hlines := splitLines_of_not_mem (newline_not_mem_first e)
      rw [errorText_of_none h, hlines]
      refine ⟨by simp, by simpa using hnot, fun p hext hp => ?_, fun _ => ⟨rfl, rfl⟩⟩
      exact absurd ⟨hext, p, hp⟩ hnot

end Report

end ProxyHeader
