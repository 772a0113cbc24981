import ProxyHeader.Proofs.Opening

/-!
# Checks in wire order

A preamble has to pass eight checks (`Preamble.Check`), in the order of the bytes that they
look at. Each looks at the first sixteen bytes or at the number of bytes received, and has
an error of its own, with the byte or the lengths that show what is wrong.

Reading runs them one after the other (`Preamble.map_read`), and so the error is that of
the first that fails, whatever the later ones say (`Preamble.read_checks`).
-/

namespace ProxyHeader

namespace Preamble

/-! ## The checks -/

/-- The bytes that name a served family and transport. -/
def servedBytes : List UInt8 :=
  [0x11, 0x12, 0x21, 0x22, 0x31, 0x32]

/-- How many bytes the addresses take of the family that a byte names. -/
def blockLengthOf (b : UInt8) : Nat :=
  match b >>> 4 with
  | 0x1 => 12
  | 0x2 => 36
  | 0x3 => 216
  | _ => 0

/-- What is checked of a preamble. -/
inductive Check where
  /-- All bytes of the preamble are there. -/
  | complete
  /-- The bytes are not the opening of a version-1 header. -/
  | notText
  | signature
  | version
  | command
  /-- The family and the transport are served. -/
  | protocol
  /-- The declared length leaves room for the addresses. -/
  | room
  /-- All that is declared was received. -/
  | received
  deriving Repr, DecidableEq

namespace Check

/-- The checks in wire order. -/
def all : List Check :=
  [complete, notText, signature, version, command, protocol, room, received]

/-- What a check asks for. -/
def Passes (buf : Bytes) : Check → Prop
  | complete => preambleLength ≤ buf.length
  | notText => ¬ textOpening <+: buf
  | signature => buf.take ProxyHeader.signature.length = ProxyHeader.signature
  | version => byteAt buf 12 >>> 4 = ProxyHeader.version
  | command => byteAt buf 12 &&& 0x0F = Command.proxy.nibble
  | protocol => byteAt buf 13 ∈ servedBytes
  | room => blockLengthOf (byteAt buf 13) ≤ declaredLength buf
  | received => preambleLength + declaredLength buf ≤ buf.length

instance (buf : Bytes) : DecidablePred (Passes buf)
  | complete => inferInstanceAs (Decidable (_ ≤ _))
  | notText => inferInstanceAs (Decidable (¬ _))
  | signature => inferInstanceAs (Decidable (_ = _))
  | version => inferInstanceAs (Decidable (_ = _))
  | command => inferInstanceAs (Decidable (_ = _))
  | protocol => inferInstanceAs (Decidable (_ ∈ _))
  | room => inferInstanceAs (Decidable (_ ≤ _))
  | received => inferInstanceAs (Decidable (_ ≤ _))

/-- What is wrong where a check fails. -/
def error (buf : Bytes) : Check → HeaderError
  | complete => .shortRead preambleLength buf.length
  | notText => .textHeader
  | signature => .badSignature
  | version => .badVersion (byteAt buf 12)
  | command => .badCommand (byteAt buf 12)
  | protocol => .badFamilyTransport (byteAt buf 13)
  | room => .lengthMismatch (declaredLength buf) (blockLengthOf (byteAt buf 13))
  | received => .shortRead (preambleLength + declaredLength buf) buf.length

/-- Runs checks one after the other, up to the first that fails. -/
def run (buf : Bytes) : List Check → Except HeaderError Unit
  | [] => .ok ()
  | c :: cs => if c.Passes buf then run buf cs else .error (c.error buf)

/-- The check fails and those before it pass. -/
def IsFirstFailing (buf : Bytes) (cs : List Check) (c : Check) : Prop :=
  ∃ before after, cs = before ++ c :: after ∧ (∀ d ∈ before, d.Passes buf) ∧ ¬ c.Passes buf

theorem run_of_passes {buf : Bytes} {c : Check} (h : c.Passes buf) (cs : List Check) :
    run buf (c :: cs) = run buf cs :=
  if_pos h

theorem run_of_not_passes {buf : Bytes} {c : Check} (h : ¬ c.Passes buf) (cs : List Check) :
    run buf (c :: cs) = .error (c.error buf) :=
  if_neg h

theorem not_isFirstFailing_nil {buf : Bytes} {c : Check} : ¬ IsFirstFailing buf [] c := by
  rintro ⟨before, after, hsplit, -⟩
  simp at hsplit

theorem isFirstFailing_cons {buf : Bytes} {c d : Check} {cs : List Check} :
    IsFirstFailing buf (c :: cs) d ↔
      (¬ c.Passes buf ∧ d = c) ∨ (c.Passes buf ∧ IsFirstFailing buf cs d) := by
  constructor
  · rintro ⟨_ | ⟨c', before⟩, after, hsplit, hbefore, hd⟩
    · obtain ⟨rfl, -⟩ := List.cons.inj hsplit
      exact Or.inl ⟨hd, rfl⟩
    · obtain ⟨rfl, rfl⟩ := List.cons.inj hsplit
      obtain ⟨hc, hbefore⟩ := List.forall_mem_cons.mp hbefore
      exact Or.inr ⟨hc, before, after, rfl, hbefore, hd⟩
  · rintro (⟨hc, rfl⟩ | ⟨hc, before, after, rfl, hbefore, hd⟩)
    · exact ⟨[], cs, rfl, nofun, hc⟩
    · exact ⟨c :: before, after, rfl, List.forall_mem_cons.mpr ⟨hc, hbefore⟩, hd⟩

theorem run_eq_ok_iff {buf : Bytes} {cs : List Check} :
    run buf cs = .ok () ↔ ∀ c ∈ cs, c.Passes buf := by
  induction cs with
  | nil => simp [run]
  | cons c cs ih =>
    rw [List.forall_mem_cons, ← ih]
    by_cases hc : c.Passes buf
    · rw [run_of_passes hc, and_iff_right hc]
    · rw [run_of_not_passes hc]
      exact ⟨nofun, fun h => absurd h.1 hc⟩

theorem run_eq_error_iff {buf : Bytes} {cs : List Check} {e : HeaderError} :
    run buf cs = .error e ↔ ∃ c, IsFirstFailing buf cs c ∧ c.error buf = e := by
  induction cs with
  | nil => simp [run, not_isFirstFailing_nil]
  | cons c cs ih =>
    simp only [isFirstFailing_cons]
    by_cases hc : c.Passes buf
    · rw [run_of_passes hc, ih]
      simp [hc]
    · rw [run_of_not_passes hc]
      simp [hc]

end Check

/-! ## Reading runs the checks -/

theorem mem_servedBytes_iff {b : UInt8} :
    b ∈ servedBytes ↔ ∃ f t, servedProtocol? b = some (f, t) := by
  constructor
  · intro h
    simp only [servedBytes, List.mem_cons, List.not_mem_nil, or_false] at h
    rcases h with rfl | rfl | rfl | rfl | rfl | rfl <;> exact ⟨_, _, rfl⟩
  · rintro ⟨f, t, h⟩
    obtain ⟨hf, ht, rfl⟩ := servedProtocol?_eq_some_iff.mp h
    cases f <;> cases t <;> first | contradiction | decide

theorem blockLengthOf_of_served {b : UInt8} {f : Family} {t : Transport}
    (h : servedProtocol? b = some (f, t)) : blockLengthOf b = f.blockLength := by
  obtain ⟨hf, ht, rfl⟩ := servedProtocol?_eq_some_iff.mp h
  cases f <;> cases t <;> first | contradiction | rfl

/-- Reading asks first for what a check asks for, and then goes on. -/
theorem map_guard {buf : Bytes} (c : Check) {cs : List Check} {fails : Prop} [Decidable fails]
    (hfails : fails ↔ ¬ c.Passes buf) {next : Except HeaderError Preamble}
    (hnext : c.Passes buf → next.map (fun _ => ()) = Check.run buf cs) :
    (if fails then .error (c.error buf) else next).map (fun _ => ()) =
      Check.run buf (c :: cs) := by
  by_cases hc : c.Passes buf
  · rw [if_neg (mt hfails.mp (not_not_intro hc)), Check.run_of_passes hc, hnext hc]
  · rw [if_pos (hfails.mpr hc), Check.run_of_not_passes hc]
    rfl

/-- The declared length is held against the addresses and then against what was received. -/
theorem map_room {buf : Bytes} {f : Family} {t : Transport}
    (hp : servedProtocol? (byteAt buf 13) = some (f, t)) (p : Preamble) :
    (if declaredLength buf < f.blockLength then
      .error (.lengthMismatch (declaredLength buf) f.blockLength)
    else if buf.length < declaredLength buf + preambleLength then
      .error (.shortRead (declaredLength buf + preambleLength) buf.length)
    else .ok p : Except HeaderError Preamble).map (fun _ => ()) =
      Check.run buf [.room, .received] := by
  rw [← blockLengthOf_of_served hp, Nat.add_comm _ preambleLength]
  refine map_guard .room Nat.not_le.symm fun _ => ?_
  refine map_guard .received Nat.not_le.symm fun _ => ?_
  rfl

theorem map_check (buf : Bytes) :
    (check buf.length (byteAt buf 12) (byteAt buf 13) (declaredLength buf)).map (fun _ => ()) =
      Check.run buf [.version, .command, .protocol, .room, .received] := by
  rw [check]
  refine map_guard .version Iff.rfl fun _ => ?_
  refine map_guard .command (not_congr Command.ofNibble?_eq_some_iff) fun _ => ?_
  -- the two checks that are left need the family that the byte names
  rcases hp : servedProtocol? (byteAt buf 13) with _ | ⟨f, t⟩
  · have hprotocol : ¬ Check.protocol.Passes buf := fun h => by
      obtain ⟨f, t, hp'⟩ := mem_servedBytes_iff.mp h
      simp [hp] at hp'
    rw [Check.run_of_not_passes hprotocol]
    rfl
  · have hprotocol : Check.protocol.Passes buf := mem_servedBytes_iff.mpr ⟨f, t, hp⟩
    rw [Check.run_of_passes hprotocol]
    exact map_room hp _

/-- Reading refuses what the checks refuse. -/
theorem map_read (buf : Bytes) : (read buf).map (fun _ => ()) = Check.run buf Check.all := by
  rcases Nat.lt_or_ge buf.length preambleLength with hlt | hcomplete
  · rw [read, if_pos hlt, Check.all,
      Check.run_of_not_passes (show ¬ Check.complete.Passes buf from Nat.not_le.mpr hlt)]
    rfl
  · rw [read_of_le hcomplete, Check.all,
      Check.run_of_passes (show Check.complete.Passes buf from hcomplete)]
    refine map_guard .notText (List.isPrefixOf_iff_prefix.trans not_not.symm) fun _ => ?_
    refine map_guard .signature Iff.rfl fun _ => ?_
    exact map_check buf

theorem exists_read_eq_ok_iff {buf : Bytes} :
    (∃ p, read buf = .ok p) ↔ ∀ c ∈ Check.all, c.Passes buf := by
  rw [← Check.run_eq_ok_iff, ← map_read]
  rcases read buf with _ | p
  · exact ⟨nofun, nofun⟩
  · exact ⟨fun _ => rfl, fun _ => ⟨p, rfl⟩⟩

theorem read_eq_error_iff {buf : Bytes} {e : HeaderError} :
    read buf = .error e ↔ ∃ c, Check.IsFirstFailing buf Check.all c ∧ c.error buf = e := by
  rw [← Check.run_eq_error_iff, ← map_read]
  rcases read buf with e' | p
  · simp [Except.map]
  · exact ⟨nofun, nofun⟩

/-! ## What the checks say of the bytes -/

theorem not_text_of_signature {buf : Bytes} (h : buf.take signature.length = signature) :
    ¬ textOpening <+: buf := by
  intro htext
  have hprefix : textOpening <+: buf.take signature.length :=
    List.prefix_take_iff.mpr ⟨htext, by decide⟩
  rw [h] at hprefix
  exact absurd hprefix (by decide)

/-- The version and a command make up the 13th byte. -/
theorem versionCommand_eq_iff {b : UInt8} (command : Command) :
    b = version <<< 4 ||| command.nibble ↔ b >>> 4 = version ∧ b &&& 0x0F = command.nibble := by
  constructor
  · rintro rfl
    cases command <;> decide
  · rintro ⟨hv, hc⟩
    rw [← hv, ← hc, shiftLeft_or_and]

theorem forall_passes_iff {buf : Bytes} : (∀ c ∈ Check.all, c.Passes buf) ↔
    preambleLength ≤ buf.length ∧ buf.take signature.length = signature ∧
      byteAt buf 12 = 0x21 ∧ byteAt buf 13 ∈ servedBytes ∧
      blockLengthOf (byteAt buf 13) ≤ declaredLength buf ∧
      preambleLength + declaredLength buf ≤ buf.length := by
  rw [show (0x21 : UInt8) = version <<< 4 ||| Command.proxy.nibble from rfl,
    versionCommand_eq_iff]
  simp only [Check.all, List.forall_mem_cons, List.not_mem_nil, false_imp_iff, implies_true,
    and_true, Check.Passes, and_assoc]
  constructor
  · rintro ⟨hcomplete, -, h⟩
    exact ⟨hcomplete, h⟩
  · rintro ⟨hcomplete, hsignature, h⟩
    exact ⟨hcomplete, not_text_of_signature hsignature, hsignature, h⟩

/-- The command is looked at where the bytes before it pass. -/
theorem isFirstFailing_command_iff {buf : Bytes} :
    Check.IsFirstFailing buf Check.all .command ↔
      (∀ c ∈ [Check.complete, .notText, .signature, .version], c.Passes buf) ∧
        ¬ Check.command.Passes buf := by
  simp [Check.all, Check.isFirstFailing_cons, Check.not_isFirstFailing_nil, and_assoc]

theorem eq_command_of_isLocal {buf : Bytes} {c : Check} (h : (c.error buf).isLocal = true) :
    c = .command ∧ byteAt buf 12 &&& 0x0F = Command.localCommand.nibble := by
  cases c with
  | command => exact ⟨rfl, beq_iff_eq.mp h⟩
  | _ => nomatch h

/-- A preamble is refused as the proxy's own where the byte for version and command says so
and nothing before it is wrong. -/
theorem isLocal_iff {buf : Bytes} {e : HeaderError} (h : read buf = .error e) :
    e.isLocal = true ↔
      (∀ c ∈ [Check.complete, .notText, .signature, .version], c.Passes buf) ∧
        byteAt buf 12 = 0x20 := by
  rw [show (0x20 : UInt8) = version <<< 4 ||| Command.localCommand.nibble from rfl,
    versionCommand_eq_iff]
  constructor
  · intro hlocal
    obtain ⟨c, hfirst, rfl⟩ := read_eq_error_iff.mp h
    obtain ⟨rfl, hcommand⟩ := eq_command_of_isLocal hlocal
    have hbefore := (isFirstFailing_command_iff.mp hfirst).1
    have hversion : Check.version.Passes buf := hbefore _ (by simp)
    exact ⟨hbefore, hversion, hcommand⟩
  · rintro ⟨hbefore, -, hcommand⟩
    have hnot : ¬ Check.command.Passes buf := fun hproxy =>
      absurd (hproxy.symm.trans hcommand) (by decide)
    have hread : read buf = .error (.badCommand (byteAt buf 12)) :=
      read_eq_error_iff.mpr ⟨_, isFirstFailing_command_iff.mpr ⟨hbefore, hnot⟩, rfl⟩
    obtain rfl := Except.error.inj (h.symm.trans hread)
    exact beq_iff_eq.mpr hcommand

/-- An accepted preamble says what its bytes say. -/
theorem eq_of_read {buf : Bytes} {p : Preamble} (h : read buf = .ok p) :
    p.command = .proxy ∧ protocolByte p.family p.transport = byteAt buf 13 ∧
      p.blockLength = blockLengthOf (byteAt buf 13) ∧
      p.blockLength + p.extensionsLength = declaredLength buf := by
  obtain ⟨hp, body, rfl, -⟩ := read_eq_ok_iff.mp h
  have hbyte : byteAt (p.encode ++ body) 13 = protocolByte p.family p.transport := rfl
  have hserved := servedProtocol?_eq_some_iff.mpr ⟨hp.family, hp.transport, rfl⟩
  have hdeclared : declaredLength (p.encode ++ body) =
      (UInt16.ofNat (p.blockLength + p.extensionsLength)).toNat :=
    congrArg UInt16.toNat (BigEndian.word16_bytes16 _)
  rw [hbyte, blockLengthOf_of_served hserved, hdeclared, hp.toNat_declared]
  exact ⟨hp.command, rfl, hp.blockLength, rfl⟩

theorem warning?_eq_some_iff {p : Preamble} {a : Anomaly} : p.warning? = some a ↔
    p.transport = .datagram ∧ a = .unsupportedTransport p.family p.transport := by
  rw [warning?]
  cases p.transport <;> simp [eq_comm]

/-- The first sixteen bytes and the number of bytes received decide about a preamble. It is
accepted if all checks pass, and otherwise refused with the error of the first that fails. -/
theorem read_checks (buf : Bytes) :
    ((∃ p, read buf = .ok p) ↔
      preambleLength ≤ buf.length ∧ buf.take signature.length = signature ∧
        byteAt buf 12 = 0x21 ∧ byteAt buf 13 ∈ servedBytes ∧
        blockLengthOf (byteAt buf 13) ≤ declaredLength buf ∧
        preambleLength + declaredLength buf ≤ buf.length) ∧
    (∀ p, read buf = .ok p →
      p.command = .proxy ∧ protocolByte p.family p.transport = byteAt buf 13 ∧
        p.blockLength = blockLengthOf (byteAt buf 13) ∧
        p.extensionsLength = declaredLength buf - p.blockLength ∧
        ∀ a, p.warning? = some a ↔
          p.transport = .datagram ∧ a = .unsupportedTransport p.family p.transport) ∧
    (∀ e, read buf = .error e ↔
      ∃ c, Check.IsFirstFailing buf Check.all c ∧ c.error buf = e) ∧
    (∀ e, read buf = .error e → (e.isLocal = true ↔
      (∀ c ∈ [Check.complete, .notText, .signature, .version], c.Passes buf) ∧
        byteAt buf 12 = 0x20)) ∧
    ∀ other, other.length = buf.length →
      other.take preambleLength = buf.take preambleLength → read other = read buf := by
  refine ⟨exists_read_eq_ok_iff.trans forall_passes_iff, fun p hp => ?_,
    fun e => read_eq_error_iff, fun e he => isLocal_iff he, fun other hlength hbefore => ?_⟩
  · obtain ⟨hcommand, hprotocol, hblock, hdeclared⟩ := eq_of_read hp
    refine ⟨hcommand, hprotocol, hblock, ?_, fun a => warning?_eq_some_iff⟩
    rw [← hdeclared, Nat.add_sub_cancel_left]
  · exact read_congr hlength hbefore

-- three checks fail: those of the command, of the family and of the bytes received
example : read (signature ++ [0x20, 0x00, 0xFF, 0xFF]) = .error (.badCommand 0x20) := by
  rfl

end Preamble

end ProxyHeader
