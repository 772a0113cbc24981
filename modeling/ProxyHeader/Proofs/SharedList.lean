import ProxyHeader.Proofs.Noting
import ProxyHeader.Proofs.Phases

/-!
# What a walk adds to the list of anomalies

Walks over several regions may put what they meet into one list. What a walk adds to it
can be told from the bytes of its region (`Region.findings`): the records that it reads to
their end are those that end in the region and in the declared bytes, up to the first whose
TLS value is broken (`Region.records`), and each record of an unknown kind and each
unknown one inside a TLS value is an anomaly. Inside a broken value those count that stand
before the defect.

This is so whether the walk succeeds or fails (`ReadsItems`), and nothing that was in the
list before has a say in it. So walks that share a list add to it one after the other, and
each has the result that it has on a list of its own (`Region.walkEach_eq`).
-/

namespace ProxyHeader

/-! ## The items that some bytes open with -/

theorem Item.split_of_stuck {bs : Bytes} (hs : Stuck encode bs) : split bs = [] := by
  rw [split, dif_neg]
  have h := stuck_iff.mp hs
  omega

theorem Item.split_append_of_stuck {tail : Bytes} (hs : Stuck encode tail) :
    ∀ items : List Item, split (items.flatMap encode ++ tail) = items
  | [] => split_of_stuck hs
  | i :: items => by
    rw [List.flatMap_cons, List.append_assoc, split_encode_append, split_append_of_stuck hs items]

/-- Bytes are the items that they open with, and what no further item opens. -/
theorem Item.exists_eq_split_append (bs : Bytes) :
    ∃ tail, bs = (split bs).flatMap encode ++ tail ∧ Stuck encode tail := by
  obtain ⟨items, tail, rfl, hs⟩ := prefixCode.exists_tiling bs
  exact ⟨tail, by rw [split_append_of_stuck hs], hs⟩

/-! ## Items that are reached -/

/-- The type code is that for TLS, and the value is too short for one or not filled by
items. -/
def Item.IsBroken (i : Item) : Prop :=
  i.code = ExtensionKind.ssl.code ∧ (i.payload.length < SslInfo.headerLength ∨
    (split (i.payload.drop SslInfo.headerLength)).flatMap encode ≠
      i.payload.drop SslInfo.headerLength)

instance : DecidablePred Item.IsBroken := fun _ => inferInstanceAs (Decidable (_ ∧ _))

/-- The items up to the first that is broken, and that one. -/
def Item.reached : List Item → List Item
  | [] => []
  | i :: items => i :: if i.IsBroken then [] else reached items

/-- What is odd about an item at an offset: it is of an unknown kind, or items inside its
TLS value are neither version nor cipher. -/
def Item.findings (offset : Nat) (i : Item) : List Anomaly :=
  match ExtensionKind.ofCode i.code with
  | .unknown code => [.unknownExtension offset code]
  | .ssl => subAnomaliesAt (offset + recordHeaderLength + SslInfo.headerLength)
      (split (i.payload.drop SslInfo.headerLength))
  | .alpn | .authority => []

/-- What is odd about items, the first of which stands at `offset`. -/
def findingsAt (offset : Nat) (items : List Item) : List Anomaly :=
  (located Item.encode offset items).flatMap fun (o, i) => i.findings o

theorem findingsAt_cons (offset : Nat) (i : Item) (items : List Item) :
    findingsAt offset (i :: items) =
      i.findings offset ++ findingsAt (offset + i.encode.length) items := by
  simp [findingsAt, located]

namespace Item

theorem findings_of_ssl {i : Item} (h : i.code = ExtensionKind.ssl.code) (offset : Nat) :
    i.findings offset = subAnomaliesAt (offset + recordHeaderLength + SslInfo.headerLength)
      (split (i.payload.drop SslInfo.headerLength)) := by
  rw [findings, ExtensionKind.ofCode_eq_ssl_iff.mpr h]

/-- The findings of an item stand in it. -/
theorem inOrder_findings (offset : Nat) (i : Item) :
    Anomaly.InOrder offset (offset + i.encode.length) (i.findings offset) := by
  have hpos := i.length_encode_pos
  unfold findings
  split
  · exact .singleton rfl (Nat.le_refl _) (by omega)
  · obtain ⟨tail, hsplit, -⟩ := exists_eq_split_append (i.payload.drop SslInfo.headerLength)
    have hlen := congrArg List.length hsplit
    rw [List.length_append, List.length_drop] at hlen
    rcases Nat.lt_or_ge i.payload.length SslInfo.headerLength with hshort | hlong
    · rw [List.drop_of_length_le (Nat.le_of_lt hshort), split_of_stuck prefixCode.stuck_nil]
      exact .nil _ _
    · refine (inOrder_subAnomaliesAt _ _).mono (by omega) ?_
      rw [length_encode]
      omega
  · exact .nil _ _
  · exact .nil _ _

/-- An item that is not broken is one that may stand after the address block. -/
theorem exists_extensionItem {i : Item} (h : ¬ i.IsBroken) : ∃ e : ExtensionItem, e.item = i := by
  refine ExtensionItem.exists_item_eq ?_
  by_cases hc : i.code = ExtensionKind.ssl.code
  · obtain ⟨hlong, hfills⟩ := not_or.mp fun hor => h ⟨hc, hor⟩
    obtain ⟨client, verify, rest, hvalue⟩ := SslInfo.exists_eq_cons_append (Nat.not_lt.mp hlong)
    have hdrop : i.payload.drop SslInfo.headerLength = rest := by
      rw [hvalue]
      rfl
    rw [hdrop] at hfills
    exact Or.inr ⟨⟨client, verify, split rest⟩, by
      rw [TlsValue.encode, not_not.mp hfills, hvalue]⟩
  · exact Or.inl hc

end Item

/-- What is odd about items stands in them, in their order. -/
theorem inOrder_findingsAt :
    ∀ (offset : Nat) (items : List Item), Anomaly.InOrder offset
      (offset + (items.flatMap Item.encode).length) (findingsAt offset items)
  | offset, [] => .nil _ _
  | offset, i :: items => by
    rw [findingsAt_cons, List.flatMap_cons, List.length_append, ← Nat.add_assoc]
    exact (i.inOrder_findings offset).append (inOrder_findingsAt _ items) (Nat.le_add_right _ _)
      (Nat.le_add_right _ _)

theorem ExtensionItem.findings_item (offset : Nat) (e : ExtensionItem) :
    e.item.findings offset = e.anomalies offset := by
  cases e with
  | tls v h =>
    have hdrop : v.encode.drop SslInfo.headerLength = v.items.flatMap Item.encode := rfl
    rw [Item.findings_of_ssl rfl]
    show subAnomaliesAt _ (Item.split (v.encode.drop SslInfo.headerLength)) = _
    rw [hdrop, Item.split_flatMap_encode]
    rfl
  | other item h =>
    show item.findings offset = _
    rw [Item.findings, anomalies]
    cases hk : ExtensionKind.ofCode item.code with
    | alpn => rfl
    | authority => rfl
    | unknown code => rfl
    | ssl => exact absurd (ExtensionKind.ofCode_eq_ssl_iff.mp hk) h

/-! ## One record -/

theorem Reader.offset?_recordError (offset : Nat) (bs : Bytes) :
    (recordError offset bs).offset? = some offset := by
  unfold recordError
  split <;> rfl

namespace Extension

/-- A broken record is refused behind what is found odd in it. -/
theorem ofRecord_of_isBroken {i : Item} (h : i.IsBroken) (offset : Nat) :
    ∃ e o, ofRecord (i.record offset) = ⟨.error e, i.findings offset⟩ ∧ e.offset? = some o ∧
      offset ≤ o ∧ Anomaly.InOrder offset o (i.findings offset) := by
  obtain ⟨hc, hbroken⟩ := h
  rw [ofRecord_of_ssl hc, Item.findings_of_ssl hc]
  rcases Nat.lt_or_ge i.payload.length SslInfo.headerLength with hshort | hlong
  · have hnone : Item.split (i.payload.drop SslInfo.headerLength) = [] := by
      rw [List.drop_of_length_le (Nat.le_of_lt hshort),
        Item.split_of_stuck Item.prefixCode.stuck_nil]
    rw [SslInfo.read_of_short hshort, hnone]
    exact ⟨_, _, rfl, rfl, Nat.le_add_right _ _, .nil _ _⟩
  · obtain ⟨client, verify, rest, hvalue⟩ := SslInfo.exists_eq_cons_append hlong
    obtain ⟨items, tail, rfl, hs⟩ := Item.prefixCode.exists_tiling rest
    have hsplit : Item.split (i.payload.drop SslInfo.headerLength) = items := by
      rw [hvalue]
      exact Item.split_append_of_stuck hs items
    have hdrop : i.payload.drop SslInfo.headerLength = items.flatMap Item.encode ++ tail := by
      rw [hvalue]
      rfl
    have hne : tail ≠ [] := by
      rintro rfl
      refine hbroken.resolve_left (Nat.not_lt.mpr hlong) ?_
      rw [hsplit, hdrop, List.append_nil]
    rw [hsplit, hvalue, SslInfo.read_append_of_stuck hs, if_neg hne]
    exact ⟨_, _, rfl, Reader.offset?_recordError _ _, by omega,
      (inOrder_subAnomaliesAt _ items).mono (by omega) (Nat.le_refl _)⟩

end Extension

/-! ## All records -/

/-- The record that an extension was read from. -/
def Extension.record (e : Extension) : Record :=
  ⟨e.kind.code, e.offset, e.payload⟩

/-- The records that items are read as, the first of which stands at `offset`. -/
def recordsAt (offset : Nat) (items : List Item) : List Record :=
  (located Item.encode offset items).map fun (o, i) => i.record o

/-- A walk reads the items to their end. What it finds is what is odd about them. Where it
succeeds they are what the extensions are read from, and where it fails, it does so behind
all that it found: at a greater offset, or at a record behind the items. -/
structure ReadsItems (expected : Nat) (r : Reader) (items : List Item) : Prop where
  anomalies : (Extension.readAll expected r).anomalies = findingsAt r.offset items
  extensions : ∀ es, (Extension.readAll expected r).result = .ok es →
    es.map Extension.record = recordsAt r.offset items
  before_offset : ∀ e o, (Extension.readAll expected r).result = .error e → e.offset? = some o →
    r.offset ≤ o ∧ Anomaly.InOrder r.offset o (findingsAt r.offset items)
  before_overrun : ∀ consumed limit,
    (Extension.readAll expected r).result = .error (.bufferOverrun consumed limit) →
      limit = expected ∧ consumed = r.consumed + (items.flatMap Item.encode).length +
        recordHeaderLength + lengthAt r.rest (items.flatMap Item.encode).length

namespace ReadsItems

variable {expected base consumed : Nat} {rest : Bytes}

/-- A walk that is over at once has read nothing. -/
theorem of_done {r : Reader} (h : Extension.readAll expected r = .done []) :
    ReadsItems expected r [] where
  anomalies := by
    rw [h]
    rfl
  extensions es hes := by
    rw [h] at hes
    obtain rfl := Except.ok.inj hes
    rfl
  before_offset e o he ho := by
    rw [h] at he
    nomatch he
  before_overrun n m he := by
    rw [h] at he
    nomatch he

/-- A walk that fails at once has read nothing. -/
theorem of_fail {r : Reader} {e : HeaderError} (h : Extension.readAll expected r = .fail e)
    (hoffset : ∀ o, e.offset? = some o → o = r.offset)
    (hover : ∀ n m, e = .bufferOverrun n m →
      m = expected ∧ n = r.consumed + recordHeaderLength + lengthAt r.rest 0) :
    ReadsItems expected r [] where
  anomalies := by
    rw [h]
    rfl
  extensions es hes := by
    rw [h] at hes
    nomatch hes
  before_offset x o he ho := by
    rw [h] at he
    obtain rfl := Except.error.inj he
    exact ⟨Nat.le_of_eq (hoffset o ho).symm, .nil _ _⟩
  before_overrun n m he := by
    rw [h] at he
    exact hover n m (Except.error.inj he)

/-- Where no item ends in time, nothing is read. -/
theorem nil (hs : Stuck Item.encode (rest.take (expected - consumed))) :
    ReadsItems expected ⟨base, consumed, rest⟩ [] := by
  rcases Nat.lt_or_ge consumed expected with hlt | hle
  · by_cases hshort : expected - consumed < recordHeaderLength
    · exact .of_fail (Extension.readAll_of_short hlt hshort)
        (fun o ho => (Option.some.inj ho).symm) nofun
    · have hroom : consumed + recordHeaderLength ≤ expected := by omega
      by_cases hstuck : Stuck Item.encode rest
      · have hoffset := Reader.offset?_recordError (base + consumed) rest
        refine .of_fail (Extension.readAll_of_stuck hroom hstuck)
          (fun o ho => Option.some.inj (ho.symm.trans hoffset)) fun n m he => ?_
        rw [he] at hoffset
        nomatch hoffset
      · obtain ⟨i, rest, rfl⟩ := not_stuck_iff.mp hstuck
        have hover : expected < consumed + i.encode.length := by
          by_contra hin
          exact hs i (List.prefix_take_iff.mpr ⟨List.prefix_append _ _, by omega⟩)
        refine .of_fail ((Extension.readAll_encode_append base i rest hroom).trans
          (if_pos hover)) nofun fun n m he => ?_
        obtain ⟨rfl, rfl⟩ := HeaderError.bufferOverrun.inj he
        refine ⟨rfl, ?_⟩
        simp only [i.lengthAt_encode_append, i.length_encode, Nat.add_assoc]
  · exact .of_done (Extension.readAll_of_le hle)

/-- Behind a broken item nothing is read. -/
theorem broken {i : Item} (h : i.IsBroken) (hle : consumed + i.encode.length ≤ expected)
    (rest : Bytes) : ReadsItems expected ⟨base, consumed, i.encode ++ rest⟩ [i] := by
  have hlen := i.length_encode
  obtain ⟨e, o, hrecord, ho, hge, horder⟩ := Extension.ofRecord_of_isBroken h (base + consumed)
  have hread : Extension.readAll expected ⟨base, consumed, i.encode ++ rest⟩ =
      ⟨.error e, i.findings (base + consumed)⟩ := by
    rw [Extension.readAll_encode_append base i rest (by omega), if_neg (by omega), hrecord]
    rfl
  have hfindings : findingsAt (base + consumed) [i] = i.findings (base + consumed) :=
    (findingsAt_cons _ i []).trans (List.append_nil _)
  refine ⟨?anomalies, ?extensions, ?before_offset, ?before_overrun⟩
  case anomalies =>
    rw [hread]
    exact hfindings.symm
  case extensions =>
    intro es hes
    rw [hread] at hes
    nomatch hes
  case before_offset =>
    intro e' o' he ho'
    rw [hread] at he
    obtain rfl := Except.error.inj he
    obtain rfl := Option.some.inj (ho.symm.trans ho')
    exact ⟨hge, hfindings ▸ horder⟩
  case before_overrun =>
    intro n m he
    rw [hread] at he
    rw [Except.error.inj he] at ho
    nomatch ho

/-- An item that is not broken is read, and the walk goes on behind it. -/
theorem cons {i : Item} {items : List Item} (h : ¬ i.IsBroken)
    (hle : consumed + i.encode.length ≤ expected)
    (hrest : ReadsItems expected ⟨base, consumed + i.encode.length, rest⟩ items) :
    ReadsItems expected ⟨base, consumed, i.encode ++ rest⟩ (i :: items) := by
  obtain ⟨e, rfl⟩ := Item.exists_extensionItem h
  have hread : Extension.readAll expected ⟨base, consumed, e.item.encode ++ rest⟩ =
      (Extension.readAll expected ⟨base, consumed + e.item.encode.length, rest⟩).after
        [e.extension (base + consumed)] (e.anomalies (base + consumed)) :=
    Extension.readAll_extensionItem_append base e rest hle
  have hoffset : Reader.offset ⟨base, consumed + e.item.encode.length, rest⟩ =
      base + consumed + e.item.encode.length := (Nat.add_assoc _ _ _).symm
  have hfindings := findingsAt_cons (base + consumed) e.item items
  obtain ⟨hanomalies, hextensions, hbefore, hover⟩ := hrest
  rw [hoffset] at hanomalies hextensions hbefore
  refine ⟨?anomalies, ?extensions, ?before_offset, ?before_overrun⟩
  case anomalies =>
    show _ = findingsAt (base + consumed) (e.item :: items)
    rw [hfindings, hread, Walk.after, hanomalies, ExtensionItem.findings_item]
  case extensions =>
    intro es hes
    rw [hread] at hes
    obtain ⟨fs, hfs, rfl⟩ := Walk.result_after_eq_ok_iff.mp hes
    have hrecord : (e.extension (base + consumed)).record = e.item.record (base + consumed) := by
      simp only [Extension.record, ExtensionItem.extension, ExtensionKind.code_ofCode, Item.record]
    show List.map _ (_ :: fs) = recordsAt (base + consumed) (e.item :: items)
    rw [List.map_cons, hextensions fs hfs, hrecord]
    rfl
  case before_offset =>
    intro x o hx ho
    rw [hread, Walk.result_after_eq_error_iff] at hx
    obtain ⟨hge, horder⟩ := hbefore x o hx ho
    have hfront := e.item.inOrder_findings (base + consumed)
    show base + consumed ≤ o ∧
      Anomaly.InOrder (base + consumed) o (findingsAt (base + consumed) (e.item :: items))
    rw [hfindings]
    exact ⟨by omega, hfront.append horder (Nat.le_add_right _ _) hge⟩
  case before_overrun =>
    intro n m hx
    rw [hread, Walk.result_after_eq_error_iff] at hx
    obtain ⟨hlimit, hcount⟩ := hover n m hx
    refine ⟨hlimit, ?_⟩
    have hlength := lengthAt_drop (e.item.encode ++ rest) e.item.encode.length
      (items.flatMap Item.encode).length
    rw [List.drop_left] at hlength
    simp only at hcount ⊢
    rw [hlength] at hcount
    rw [List.flatMap_cons, List.length_append]
    omega

end ReadsItems

/-- Where a region opens with items and then with none, as far as it is declared, those
that are reached are read. -/
theorem readsItems {expected : Nat} (base : Nat) {tail : Bytes} (hs : Stuck Item.encode tail) :
    ∀ (items : List Item) (consumed : Nat) (rest : Bytes),
      rest.take (expected - consumed) = items.flatMap Item.encode ++ tail →
      ReadsItems expected ⟨base, consumed, rest⟩ (Item.reached items)
  | [], consumed, rest, h => .nil (h ▸ hs)
  | i :: items, consumed, rest, h => by
    rw [List.flatMap_cons, List.append_assoc] at h
    have hfront : i.encode <+: rest.take (expected - consumed) := ⟨_, h.symm⟩
    obtain ⟨⟨rest, rfl⟩, hlen⟩ := List.prefix_take_iff.mp hfront
    have hpos := i.length_encode_pos
    have hle : consumed + i.encode.length ≤ expected := by omega
    rw [Item.reached]
    split
    next hbroken => exact .broken hbroken hle rest
    next hwell =>
      -- behind the item as many bytes fewer are declared as it takes
      refine .cons hwell hle (readsItems base hs items _ rest ?_)
      rw [List.take_append, List.take_of_length_le hlen] at h
      rw [← List.append_cancel_left h]
      congr 1
      omega

/-! ## Regions that share a list -/

/-- Bytes that are walked: the first has offset `base`, and `expected` bytes are declared to
be records. -/
structure Region where
  bytes : Bytes
  expected : Nat
  base : Nat
  deriving Repr, DecidableEq

namespace Region

/-- Walks the region on a list of anomalies. -/
def walk (r : Region) : Noting (List Extension) :=
  Noting.walk r.bytes r.expected r.base

/-- How the walk ends on a list of its own. -/
def answer (r : Region) : Except HeaderError (List Extension) :=
  (r.walk.run []).1

/-- The records that are read to their end: those that end in the region and in the bytes
declared, up to the first that is broken. -/
def records (r : Region) : List Item :=
  Item.reached (Item.split (r.bytes.take r.expected))

/-- How many bytes the records take that are read to their end. -/
def recordsLength (r : Region) : Nat :=
  (r.records.flatMap Item.encode).length

/-- What is odd about the records that are read to their end. -/
def findings (r : Region) : List Anomaly :=
  findingsAt r.base r.records

/-- Walks regions one after the other on one list, whether or not a walk fails. -/
def walkEach (regions : List Region) :
    StateM (List Anomaly) (List (Except HeaderError (List Extension))) :=
  regions.mapM fun r => ExceptT.run r.walk

theorem reads (r : Region) :
    ReadsItems r.expected (Reader.ofBytes r.bytes r.base) r.records := by
  obtain ⟨tail, hsplit, hs⟩ := Item.exists_eq_split_append (r.bytes.take r.expected)
  exact readsItems r.base hs _ 0 r.bytes hsplit

theorem answer_eq (r : Region) :
    r.answer = (Extension.walk r.bytes r.expected r.base).result := by
  rw [answer, walk, Noting.run_walk]

theorem walk_eq_answer_findings (r : Region) :
    Extension.walk r.bytes r.expected r.base = ⟨r.answer, r.findings⟩ := by
  have hfound : (Extension.walk r.bytes r.expected r.base).anomalies = r.findings :=
    r.reads.anomalies
  rw [answer_eq, ← hfound]

theorem run_walk (r : Region) (notes : List Anomaly) :
    r.walk.run notes = (r.answer, notes ++ r.findings) := by
  rw [walk, Noting.run_walk, walk_eq_answer_findings]

theorem run_walkEach_cons (r : Region) (regions : List Region) (notes : List Anomaly) :
    (walkEach (r :: regions)).run notes =
      (r.answer :: ((walkEach regions).run (notes ++ r.findings)).1,
        ((walkEach regions).run (notes ++ r.findings)).2) := by
  have hfirst : StateT.run (ExceptT.run r.walk) notes = (r.answer, notes ++ r.findings) :=
    r.run_walk notes
  rw [walkEach, List.mapM_cons, StateT.run_bind, hfirst]
  rfl

/-- What a walk does to the list of anomalies that it is given: it puts its findings at the
end and has the answer that it has without the list. The findings stand in the records that
are read to their end, in the order of these. On success the extensions are those records.
On failure all findings stand in front of the record or the byte that the error names, and
where that is a record that runs past the declared bytes, it is the one behind the records.

Offsets are natural numbers. Where they are counted in words of 64 bits, all this is about regions
for which the base and the number of bytes together stay below `2 ^ 64`. -/
structure AddsFindings (r : Region) : Prop where
  run : ∀ notes, r.walk.run notes = (r.answer, notes ++ r.findings)
  /-- These are the answer and the findings of a walk without the list. -/
  walk : Extension.walk r.bytes r.expected r.base = ⟨r.answer, r.findings⟩
  ordered : Anomaly.InOrder r.base (r.base + r.recordsLength) r.findings
  extensions : ∀ es, r.answer = .ok es → es.map Extension.record = recordsAt r.base r.records
  before_offset : ∀ e o, r.answer = .error e → e.offset? = some o →
    Anomaly.InOrder r.base o r.findings
  before_overrun : ∀ consumed limit, r.answer = .error (.bufferOverrun consumed limit) →
    limit = r.expected ∧
      consumed = r.recordsLength + recordHeaderLength + lengthAt r.bytes r.recordsLength

/-- Walks that share a list add their findings to it one after the other, and each has the
answer that it has on a list of its own. -/
theorem walkEach_eq (regions : List Region) (notes : List Anomaly) :
    (∀ r : Region, r.AddsFindings) ∧
      (walkEach regions).run notes =
        (regions.map answer, notes ++ regions.flatMap findings) := by
  constructor
  · intro r
    have hreads := r.reads
    refine ⟨r.run_walk, r.walk_eq_answer_findings, inOrder_findingsAt r.base r.records,
      ?_, ?_, ?_⟩
    · rw [answer_eq]
      exact hreads.extensions
    · rw [answer_eq]
      exact fun e o he ho => (hreads.before_offset e o he ho).2
    · rw [answer_eq]
      intro n m he
      obtain ⟨hlimit, hcount⟩ := hreads.before_overrun n m he
      rw [Reader.ofBytes, Nat.zero_add] at hcount
      exact ⟨hlimit, hcount⟩
  · induction regions generalizing notes with
    | nil => exact Prod.ext rfl (List.append_nil notes).symm
    | cons r regions ih =>
      rw [run_walkEach_cons, ih, List.map_cons, List.flatMap_cons, List.append_assoc]

-- a TLS value that ends inside a record, behind its version and an odd record
example : (Region.mk [0x20, 0, 14, 1, 0, 0, 0, 0, 0x21, 0, 1, 0x76, 0x22, 0, 1, 0x6E, 0x23]
    17 28).findings = [.unknownSubtype 40 0x22] := by
  decide +kernel

end Region

end ProxyHeader
