import Mathlib.Data.List.Basic
import ProxyHeader.Proofs.AddressText
import ProxyHeader.Proofs.Checks
import ProxyHeader.Proofs.Phases

/-!
# Messages say everything

The message of an error or an anomaly opens with words for its kind, and numbers follow with
words between them. A `Form` reads the messages of one kind. No opening of a form begins that of
another, so that the kind can be told (`Form.readFirst_of_getElem?`); a decimal number ends where
no digit follows and a byte has two digits, so that the numbers can be told as well.

Some things are left out of messages: the byte that makes a header the proxy's own, and family
and transport, of which only the name of the protocol is shown. What is read of received bytes
leaves one choice for each, and so errors and anomalies are read back from their messages
(`HeaderError.ofMessage?_message`, `Anomaly.ofMessage?_message`) and differ if they do
(`Info.eq_of_messages_eq`).
-/

namespace ProxyHeader

/-! ## Parts of a message -/

namespace Scan

/-- What follows some words. -/
def words? (words : String) (cs : List Char) : Option (List Char) :=
  cs.dropPrefix? words.toList

/-- A decimal number and what follows it. -/
def number? (cs : List Char) : Option (Nat × List Char) :=
  match Digits.span 10 cs with
  | ([], _) => none
  | (ds, rest) => some (Digits.value 10 ds, rest)

/-- A byte, written as `0x` and two hexadecimal digits, and what follows it. -/
def byte? : List Char → Option (UInt8 × List Char)
  | '0' :: 'x' :: hi :: lo :: rest => do
    let hi ← Digits.digit? 16 hi
    let lo ← Digits.digit? 16 lo
    return (UInt8.ofNat (hi * 16 + lo), rest)
  | _ => none

theorem words?_append (words : String) (rest : List Char) :
    words? words (words.toList ++ rest) = some rest :=
  List.dropPrefix?_append_of_beq rest (beq_self_eq_true _)

/-- Words are not found where other words stand that neither begin them nor begin with them. -/
theorem words?_append_eq_none {words others : String} (h : ¬ words.toList <+: others.toList)
    (h' : ¬ others.toList <+: words.toList) (rest : List Char) :
    words? words (others.toList ++ rest) = none := by
  refine Option.eq_none_iff_forall_ne_some.mpr fun cs hcs => ?_
  obtain ⟨front, hfront, hwords⟩ := List.dropPrefix?_eq_some_iff.mp hcs
  obtain rfl := beq_iff_eq.mp hwords
  rcases List.prefix_or_prefix_of_prefix (List.prefix_append _ _) ⟨cs, hfront.symm⟩ with hp | hp
  · exact h' hp
  · exact h hp

theorem number?_decimal_append (n : Nat) {rest : List Char}
    (hrest : Digits.span 10 rest = ([], rest)) :
    number? ((Digits.decimal n).toList ++ rest) = some (n, rest) := by
  obtain ⟨d, ds, hspan, hvalue, -, -⟩ :=
    Digits.span_toDigits_append (by decide) (by decide) n hrest
  rw [Digits.decimal, String.toList_ofList, number?, hspan]
  exact congrArg (fun m => some (m, rest)) hvalue

theorem number?_decimal (n : Nat) : number? (Digits.decimal n).toList = some (n, []) := by
  have h := number?_decimal_append n (show Digits.span 10 [] = ([], []) from rfl)
  rwa [List.append_nil] at h

theorem byte?_hexByte_append (b : UInt8) (rest : List Char) :
    byte? ((Digits.hexByte b).toList ++ rest) = some (b, rest) := by
  have hb := b.toNat_lt
  have hhi : Digits.digit? 16 (Nat.digitChar (b.toNat / 16)) = some (b.toNat / 16) :=
    Digits.digit?_digitChar (Nat.le_refl 16) (by omega)
  have hlo : Digits.digit? 16 (Nat.digitChar (b.toNat % 16)) = some (b.toNat % 16) :=
    Digits.digit?_digitChar (Nat.le_refl 16) (by omega)
  have hvalue : UInt8.ofNat (b.toNat / 16 * 16 + b.toNat % 16) = b := by
    rw [Nat.div_add_mod', UInt8.ofNat_toNat]
  rw [Digits.hexByte, String.toList_ofList]
  simp only [List.cons_append, List.nil_append, byte?, hhi, hlo, Option.bind_eq_bind,
    Option.bind_some, Option.pure_def, hvalue]

theorem byte?_hexByte (b : UInt8) : byte? (Digits.hexByte b).toList = some (b, []) := by
  have h := byte?_hexByte_append b []
  rwa [List.append_nil] at h

end Scan

/-! ## Forms of messages -/

/-- How the messages of one kind are read. -/
structure Form (α : Type) where
  /-- What they open with. -/
  opening : String
  /-- Reads what follows. -/
  read? : List Char → Option α

namespace Form

variable {α : Type}

/-- Reads a message by the first form that it has. -/
def readFirst (forms : List (Form α)) (cs : List Char) : Option α :=
  forms.findSome? fun f => (Scan.words? f.opening cs).bind f.read?

/-- No form opens with what another opens with. -/
def Apart (forms : List (Form α)) : Prop :=
  (forms.map fun f => f.opening.toList).Pairwise fun s t => ¬ s <+: t ∧ ¬ t <+: s

instance (forms : List (Form α)) : Decidable (Apart forms) :=
  inferInstanceAs (Decidable (List.Pairwise _ _))

theorem readFirst_eq_none {forms : List (Form α)} {opening : String}
    (h : ∀ f ∈ forms, ¬ f.opening.toList <+: opening.toList ∧
      ¬ opening.toList <+: f.opening.toList) (rest : List Char) :
    readFirst forms (opening.toList ++ rest) = none := by
  refine List.findSome?_eq_none_iff.mpr fun f hf => ?_
  rw [Scan.words?_append_eq_none (h f hf).1 (h f hf).2, Option.bind_none]

/-- A message that opens as a form does is read by it. -/
theorem readFirst_of_mem (rest : List Char) : ∀ {forms : List (Form α)}, Apart forms →
    ∀ {f : Form α}, f ∈ forms → readFirst forms (f.opening.toList ++ rest) = f.read? rest
  | [], _, f, hf => absurd hf List.not_mem_nil
  | g :: forms, hapart, f, hf => by
    obtain ⟨hg, hforms⟩ := List.pairwise_cons.mp hapart
    rw [List.forall_mem_map] at hg
    have hstep : readFirst (g :: forms) (f.opening.toList ++ rest) =
        ((Scan.words? g.opening (f.opening.toList ++ rest)).bind g.read?).or
          (readFirst forms (f.opening.toList ++ rest)) := by
      rw [readFirst, List.findSome?_cons]
      cases (Scan.words? g.opening (f.opening.toList ++ rest)).bind g.read? <;> rfl
    rw [hstep]
    rcases List.mem_cons.mp hf with rfl | hf
    · rw [Scan.words?_append, Option.bind_some,
        readFirst_eq_none (fun h hh => ⟨(hg h hh).2, (hg h hh).1⟩), Option.or_none]
    · rw [Scan.words?_append_eq_none (hg f hf).1 (hg f hf).2, Option.bind_none, Option.none_or,
        readFirst_of_mem rest hforms hf]

theorem readFirst_of_getElem? {forms : List (Form α)} (hapart : Apart forms) (k : Nat)
    {f : Form α} (hk : forms[k]? = some f) {message : String} {rest : List Char}
    (hmessage : message.toList = f.opening.toList ++ rest) :
    readFirst forms message.toList = f.read? rest := by
  rw [hmessage, readFirst_of_mem rest hapart (List.mem_of_getElem? hk)]

/-! ### The kinds of forms -/

/-- Words alone. -/
def ofWords (opening : String) (a : α) : Form α :=
  ⟨opening, fun _ => some a⟩

/-- Words and a byte. -/
def ofByte (opening : String) (make : UInt8 → α) : Form α :=
  ⟨opening, fun cs => do
    let (byte, _) ← Scan.byte? cs
    return make byte⟩

/-- Words and two numbers, with words between them. -/
def ofNumbers (opening between : String) (make : Nat → Nat → α) : Form α :=
  ⟨opening, fun cs => do
    let (m, cs) ← Scan.number? cs
    let cs ← Scan.words? between cs
    let (n, _) ← Scan.number? cs
    return make m n⟩

/-- Words, a byte and a number, with words between them. -/
def ofByteAndNumber (opening between : String) (make : UInt8 → Nat → α) : Form α :=
  ⟨opening, fun cs => do
    let (byte, cs) ← Scan.byte? cs
    let cs ← Scan.words? between cs
    let (n, _) ← Scan.number? cs
    return make byte n⟩

variable {forms : List (Form α)} {opening between message : String}

theorem readFirst_ofWords {a : α} (hapart : Apart forms) (k : Nat)
    (hk : forms[k]? = some (ofWords message a)) : readFirst forms message.toList = some a :=
  readFirst_of_getElem? hapart k hk (List.append_nil _).symm

theorem readFirst_ofByte {make : UInt8 → α} (hapart : Apart forms) (k : Nat)
    (hk : forms[k]? = some (ofByte opening make)) (byte : UInt8)
    (hmessage : message = opening ++ Digits.hexByte byte) :
    readFirst forms message.toList = some (make byte) := by
  have hlist : message.toList = opening.toList ++ (Digits.hexByte byte).toList := by
    rw [hmessage, String.toList_append]
  rw [readFirst_of_getElem? hapart k hk hlist]
  simp only [ofByte, Scan.byte?_hexByte, Option.bind_eq_bind, Option.bind_some, Option.pure_def]

theorem readFirst_ofNumbers {make : Nat → Nat → α} (hapart : Apart forms) (k : Nat)
    (hk : forms[k]? = some (ofNumbers opening between make))
    (hbetween : ∀ cs, Digits.span 10 (between.toList ++ cs) = ([], between.toList ++ cs))
    (ending : String) (hending : Digits.span 10 ending.toList = ([], ending.toList)) (m n : Nat)
    (hmessage : message =
      opening ++ Digits.decimal m ++ between ++ Digits.decimal n ++ ending) :
    readFirst forms message.toList = some (make m n) := by
  have hlist : message.toList = opening.toList ++ ((Digits.decimal m).toList ++
      (between.toList ++ ((Digits.decimal n).toList ++ ending.toList))) := by
    rw [hmessage]
    simp only [String.toList_append, List.append_assoc]
  rw [readFirst_of_getElem? hapart k hk hlist]
  simp only [ofNumbers, Scan.number?_decimal_append _ (hbetween _),
    Scan.number?_decimal_append _ hending, Scan.words?_append, Option.bind_eq_bind,
    Option.bind_some, Option.pure_def]

theorem readFirst_ofByteAndNumber {make : UInt8 → Nat → α} (hapart : Apart forms) (k : Nat)
    (hk : forms[k]? = some (ofByteAndNumber opening between make)) (byte : UInt8) (n : Nat)
    (hmessage : message = opening ++ Digits.hexByte byte ++ between ++ Digits.decimal n) :
    readFirst forms message.toList = some (make byte n) := by
  have hlist : message.toList = opening.toList ++ ((Digits.hexByte byte).toList ++
      (between.toList ++ (Digits.decimal n).toList)) := by
    rw [hmessage]
    simp only [String.toList_append, List.append_assoc]
  rw [readFirst_of_getElem? hapart k hk hlist]
  simp only [ofByteAndNumber, Scan.byte?_hexByte_append, Scan.words?_append, Scan.number?_decimal,
    Option.bind_eq_bind, Option.bind_some, Option.pure_def]

end Form

/-! ## Errors -/

namespace HeaderError

/-- The forms of the messages of errors. A header of the proxy's own is taken for one of
version 2. -/
def forms : List (Form HeaderError) :=
  [.ofNumbers "too few bytes read: need " ", got " shortRead,
    .ofWords "PROXY v1 text header is not supported" textHeader,
    .ofWords "not a valid PROXY v2 header" badSignature,
    .ofByte "13th byte has illegal version " badVersion,
    .ofWords "LOCAL connection carries no forwarded addresses" (badCommand 0x20),
    .ofByte "13th byte has illegal command " badCommand,
    .ofByte "14th byte has unsupported family/transport " badFamilyTransport,
    .ofNumbers "declared length " " does not leave room for " lengthMismatch,
    .ofNumbers "extension truncated at offset " ": " truncated,
    ⟨"extension 0x", fun cs => do
      let (kind, cs) ← Scan.byte? ('0' :: 'x' :: cs)
      let cs ← Scan.words? " at offset " cs
      let (offset, cs) ← Scan.number? cs
      let cs ← Scan.words? " has invalid length " cs
      let (length, _) ← Scan.number? cs
      return overrun offset kind length⟩,
    .ofNumbers "buffer overrun (" " / " bufferOverrun]

theorem apart_forms : Form.Apart forms := by
  decide +kernel

/-- The error that a message tells. -/
def ofMessage? (message : String) : Option HeaderError :=
  Form.readFirst forms message.toList

/-- The one form with a byte that its opening runs into, as no other form may open so. -/
theorem ofMessage?_overrun (offset : Nat) (kind : UInt8) (length : Nat) :
    ofMessage? (overrun offset kind length).message = some (overrun offset kind length) := by
  obtain ⟨digits, hdigits⟩ : ∃ digits, (Digits.hexByte kind).toList = '0' :: 'x' :: digits :=
    ⟨_, by rw [Digits.hexByte, String.toList_ofList]⟩
  have hbyte : ∀ cs, Scan.byte? ('0' :: 'x' :: (digits ++ cs)) = some (kind, cs) := fun cs => by
    have h := Scan.byte?_hexByte_append kind cs
    rwa [hdigits] at h
  have hmessage : (overrun offset kind length).message.toList =
      "extension 0x".toList ++ (digits ++ (" at offset ".toList ++
        ((Digits.decimal offset).toList ++ (" has invalid length ".toList ++
          (Digits.decimal length).toList)))) := by
    unfold message
    simp only [String.toList_append, List.append_assoc, hdigits]
    rfl
  have hend : ∀ cs, Digits.span 10 (" has invalid length ".toList ++ cs) =
      ([], " has invalid length ".toList ++ cs) := fun _ => rfl
  rw [ofMessage?, Form.readFirst_of_getElem? apart_forms 9 rfl hmessage]
  simp only [hbyte, Scan.words?_append, Scan.number?_decimal_append _ (hend _),
    Scan.number?_decimal, Option.bind_eq_bind, Option.bind_some, Option.pure_def]

/-- An error is read back from its message, where the proxy's own headers are of version 2. -/
theorem ofMessage?_message {e : HeaderError} (h : e.isLocal = true → e = .badCommand 0x20) :
    ofMessage? e.message = some e := by
  cases e with
  | shortRead expected actual =>
    refine Form.readFirst_ofNumbers apart_forms 0 rfl (fun _ => rfl) "" rfl expected
      actual ?_
    unfold message
    rw [String.append_empty]
  | textHeader =>
    unfold message
    exact Form.readFirst_ofWords apart_forms 1 rfl
  | badSignature =>
    unfold message
    exact Form.readFirst_ofWords apart_forms 2 rfl
  | badVersion byte =>
    refine Form.readFirst_ofByte apart_forms 3 rfl byte ?_
    unfold message
    rfl
  | badCommand byte =>
    by_cases hlocal : (badCommand byte).isLocal = true
    · unfold message
      dsimp only
      rw [if_pos hlocal, h hlocal]
      exact Form.readFirst_ofWords apart_forms 4 rfl
    · refine Form.readFirst_ofByte apart_forms 5 rfl byte ?_
      unfold message
      exact if_neg hlocal
  | badFamilyTransport byte =>
    refine Form.readFirst_ofByte apart_forms 6 rfl byte ?_
    unfold message
    rfl
  | lengthMismatch declared blockLength =>
    refine Form.readFirst_ofNumbers apart_forms 7 rfl (fun _ => rfl) " address bytes" rfl
      declared blockLength ?_
    unfold message
    rfl
  | truncated offset remaining =>
    refine Form.readFirst_ofNumbers apart_forms 8 rfl (fun _ => rfl) " bytes left" rfl offset
      remaining ?_
    unfold message
    rfl
  | overrun offset kind length => exact ofMessage?_overrun offset kind length
  | bufferOverrun consumed expected =>
    refine Form.readFirst_ofNumbers apart_forms 10 rfl (fun _ => rfl) ")" rfl consumed
      expected ?_
    unfold message
    rfl

end HeaderError

/-- A header that is refused as the proxy's own is of version 2. -/
theorem Info.eq_of_isLocal_of_read {buf : Bytes} {e : HeaderError} (he : read buf = .error e)
    (hlocal : e.isLocal = true) : e = .badCommand 0x20 := by
  rcases error_cases he with ⟨hp, -⟩ | ⟨p, -, habout⟩
  · obtain ⟨c, -, rfl⟩ := Preamble.read_eq_error_iff.mp hp
    obtain ⟨rfl, -⟩ := Preamble.eq_command_of_isLocal hlocal
    exact congrArg HeaderError.badCommand ((Preamble.isLocal_iff hp).mp hlocal).2
  · have hext := habout.isExtensionError
    cases e with
    | badCommand byte => exact absurd hext Bool.false_ne_true
    | _ => exact absurd hlocal Bool.false_ne_true

/-! ## Anomalies -/

namespace Anomaly

/-- The families that are served. -/
def servedFamilies : List Family :=
  [.inet, .inet6, .unix]

/-- The forms of the messages of anomalies. A transport that is not served is taken for
datagrams over a served family. -/
def forms : List (Form Anomaly) :=
  [⟨"protocol ", fun cs =>
      (servedFamilies.find? fun f => (protocolName f .datagram).toList.isPrefixOf cs).map
        (unsupportedTransport · .datagram)⟩,
    .ofWords "printing of UNIX socket addresses not implemented" unixAddress,
    .ofByteAndNumber "unknown extension " " at offset " fun code offset =>
      unknownExtension offset code,
    .ofByteAndNumber "unknown SSL subtype " " at offset " fun code offset =>
      unknownSubtype offset code]

theorem apart_forms : Form.Apart forms := by
  decide +kernel

/-- The anomaly that a message tells. -/
def ofMessage? (message : String) : Option Anomaly :=
  Form.readFirst forms message.toList

/-- An anomaly is read back from its message, where a transport that is not served is for
datagrams over a served family. -/
theorem ofMessage?_message {a : Anomaly}
    (h : ∀ f t, a = .unsupportedTransport f t → f ≠ .unspec ∧ t = .datagram) :
    ofMessage? a.message = some a := by
  cases a with
  | unsupportedTransport f t =>
    obtain ⟨hf, rfl⟩ := h f t rfl
    cases f with
    | unspec => exact absurd rfl hf
    | inet => decide +kernel
    | inet6 => decide +kernel
    | unix => decide +kernel
  | unixAddress =>
    unfold message
    exact Form.readFirst_ofWords apart_forms 1 rfl
  | unknownExtension offset code =>
    refine Form.readFirst_ofByteAndNumber apart_forms 2 rfl code offset ?_
    unfold message
    rfl
  | unknownSubtype offset code =>
    refine Form.readFirst_ofByteAndNumber apart_forms 3 rfl code offset ?_
    unfold message
    rfl

end Anomaly

/-- An accepted header is of a served family, and only datagrams over it are not served. -/
theorem Header.Describes.of_unsupportedTransport_mem {h : Header} {i : Info}
    (hi : h.Describes i) {f : Family} {t : Transport}
    (hmem : .unsupportedTransport f t ∈ i.anomalies) : f ≠ .unspec ∧ t = .datagram := by
  rw [hi.anomalies, Preamble.toList_warning?, hi.family.addressAnomalies_eq, List.mem_append,
    List.mem_append] at hmem
  rcases hmem with (hmem | hmem) | hmem
  · split at hmem
    · obtain ⟨rfl, rfl⟩ := Anomaly.unsupportedTransport.inj (List.mem_singleton.mp hmem)
      exact ⟨h.family_ne_unspec, rfl⟩
    · exact absurd hmem List.not_mem_nil
  · split at hmem
    · exact nomatch List.mem_singleton.mp hmem
    · exact absurd hmem List.not_mem_nil
  · -- what is found about a record stands at an offset
    obtain ⟨o, ho, -⟩ := (inOrder_anomaliesAt _ _).within _ hmem
    exact nomatch ho

namespace Info

theorem ofMessage?_message_of_read {buf : Bytes} {i : Info} (hi : read buf = .ok i) :
    ∀ a ∈ i.anomalies, Anomaly.ofMessage? a.message = some a := by
  obtain ⟨header, t, -, hdescribes⟩ := read_eq_ok_iff.mp hi
  intro a ha
  refine Anomaly.ofMessage?_message fun f t hft => ?_
  rw [hft] at ha
  exact hdescribes.of_unsupportedTransport_mem ha

/-- Two refused headers whose errors have the same message have the same error, and two accepted
headers whose anomalies have the same messages have the same anomalies. -/
theorem eq_of_messages_eq (buf other : Bytes) :
    (∀ e e', read buf = .error e → read other = .error e' → e.message = e'.message → e = e') ∧
    ∀ i j, read buf = .ok i → read other = .ok j →
      i.anomalies.map Anomaly.message = j.anomalies.map Anomaly.message →
        i.anomalies = j.anomalies := by
  refine ⟨fun e e' he he' hmessage => ?_, fun i j hi hj hmessages => ?_⟩
  · have hread := HeaderError.ofMessage?_message (eq_of_isLocal_of_read he)
    have hread' := HeaderError.ofMessage?_message (eq_of_isLocal_of_read he')
    rw [hmessage, hread'] at hread
    exact (Option.some.inj hread).symm
  · have hback : ∀ {k : Info} {bytes : Bytes}, read bytes = .ok k →
        (k.anomalies.map Anomaly.message).map Anomaly.ofMessage? = k.anomalies.map some := by
      intro k bytes hk
      rw [List.map_map]
      exact List.map_congr_left (ofMessage?_message_of_read hk)
    refine List.map_injective_iff.mpr (fun _ _ => Option.some.inj) ?_
    rw [← hback hi, ← hback hj, hmessages]

/-- The proxy's own headers, one over TCP and one over no protocol at all, have one error. -/
theorem eq_of_messages_eq_ownHeaders :
    ∃ e e', read (signature ++ [0x20, 0x11, 0x00, 0x0C]) = .error e ∧
      read (signature ++ [0x20, 0x00, 0x00, 0x00]) = .error e' ∧
      e.message = "LOCAL connection carries no forwarded addresses" ∧
      e'.message = "LOCAL connection carries no forwarded addresses" ∧ e = e' := by
  have h : read (signature ++ [0x20, 0x11, 0x00, 0x0C]) = .error (.badCommand 0x20) := by
    decide +kernel
  have h' : read (signature ++ [0x20, 0x00, 0x00, 0x00]) = .error (.badCommand 0x20) := by
    decide +kernel
  have hmessage : (HeaderError.badCommand 0x20).message =
      "LOCAL connection carries no forwarded addresses" := by
    decide +kernel
  exact ⟨_, _, h, h', hmessage, hmessage, (eq_of_messages_eq _ _).1 _ _ h h' rfl⟩

end Info

end ProxyHeader
