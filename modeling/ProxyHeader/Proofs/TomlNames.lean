import Mathlib.Tactic.Common
import ProxyHeader.Toml.Document

/-!
# Names in documents

No document gives a name twice. `FieldsDistinct` says so of a table and of all tables that
stand in it under names; tables in lists do not matter here. The table that is built line by
line has this property at any time (`build_distinct`), as each line adds an entry under a new
name or changes one, and so has what is read of a document (`Document.distinct_of_parse?`).
-/

namespace ProxyHeader

namespace Toml

/-! ## Distinct names -/

mutual

/-- In a table, and in the tables that stand in it under names, each name is given once. -/
def Value.Distinct : Value → Prop
  | .table fields => FieldsDistinct fields
  | _ => True

/-- The names of a table are distinct, and so are those in its values. -/
def FieldsDistinct : List (String × Value) → Prop
  | [] => True
  | (k, v) :: fields => k ∉ Entries.names fields ∧ v.Distinct ∧ FieldsDistinct fields

end

theorem FieldsDistinct.nodup_names : ∀ {fields : List (String × Value)},
    FieldsDistinct fields → (Entries.names fields).Nodup
  | [], _ => List.nodup_nil
  | (_, _) :: _, h => List.nodup_cons.mpr ⟨h.1, FieldsDistinct.nodup_names h.2.2⟩

mutual

/-- The same of an entry of a table under construction. -/
def Node.Distinct : Node → Prop
  | .closed v => v.Distinct
  | .table _ fields => Fields.Distinct fields
  | .tables _ _ => True

/-- The same of a table under construction. -/
def Fields.Distinct : List (String × Node) → Prop
  | [] => True
  | (k, n) :: fields => k ∉ Entries.names fields ∧ n.Distinct ∧ Fields.Distinct fields

end

theorem names_fieldValues :
    ∀ fields : List (String × Node), Entries.names (fieldValues fields) = Entries.names fields
  | [] => rfl
  | (k, n) :: fields => by
    have ih := names_fieldValues fields
    simp only [Entries.names, fieldValues, List.map_cons] at ih ⊢
    rw [ih]

mutual

theorem Node.Distinct.value : ∀ {n : Node}, n.Distinct → n.value.Distinct
  | .closed _, h => h
  | .table _ _, h => Fields.Distinct.fieldValues h
  | .tables _ _, _ => trivial

theorem Fields.Distinct.fieldValues :
    ∀ {fields : List (String × Node)}, Fields.Distinct fields → FieldsDistinct (fieldValues fields)
  | [], _ => trivial
  | (_, _) :: _, h =>
    ⟨by rw [names_fieldValues]; exact h.1, Node.Distinct.value h.2.1,
      Fields.Distinct.fieldValues h.2.2⟩

end

/-! ## Building tables -/

namespace Fields

theorem Distinct.get? {k : String} {n : Node} : ∀ {fields : List (String × Node)},
    Distinct fields → Entries.get? k fields = some n → n.Distinct
  | (k', n') :: fields, h, hget => by
    rw [Entries.get?] at hget
    split at hget
    · obtain rfl := Option.some.inj hget
      exact h.2.1
    · exact Distinct.get? h.2.2 hget

theorem Distinct.put {k : String} {n : Node} (hn : n.Distinct) :
    ∀ {fields : List (String × Node)}, Distinct fields → Distinct (Entries.put k n fields)
  | [], _ => ⟨by simp [Entries.names], hn, trivial⟩
  | (k', n') :: fields, h => by
    rw [Entries.put]
    split
    next hk => exact ⟨hk ▸ h.1, hn, h.2.2⟩
    next hk =>
      refine ⟨?_, h.2.1, Distinct.put hn h.2.2⟩
      rw [Entries.mem_names_put, not_or]
      exact ⟨hk, h.1⟩

theorem emptyDistinct : Distinct [] :=
  trivial

theorem Distinct.addEntry {v : Value} (hv : v.Distinct) :
    ∀ (path : List String) {fields fields' : Fields}, Distinct fields →
      addEntry v path fields = some fields' → Distinct fields'
  | [], _, _, _, h => by simp [Fields.addEntry] at h
  | [k], fields, fields', hfields, h => by
    rw [Fields.addEntry] at h
    split at h
    · obtain rfl := Option.some.inj h
      exact hfields.put (n := .closed v) hv
    · simp at h
  | k :: k' :: ks, fields, fields', hfields, h => by
    rw [Fields.addEntry] at h
    split at h
    next hget =>
      obtain ⟨inner, hinner, rfl⟩ := Option.map_eq_some_iff.mp h
      exact hfields.put (n := .table .dotted inner) (addEntry hv (k' :: ks) emptyDistinct hinner)
    · simp at h
    · simp at h
    next origin inner _ hget =>
      obtain ⟨inner', hinner, rfl⟩ := Option.map_eq_some_iff.mp h
      exact hfields.put (n := .table .dotted inner')
        (addEntry hv (k' :: ks) (hfields.get? hget) hinner)
    next done last hget =>
      -- What changes inside a list of tables does not count.
      split at h
      · simp at h
      · obtain ⟨last', -, rfl⟩ := Option.map_eq_some_iff.mp h
        exact hfields.put (n := .tables done last') trivial

/-- A header changes one entry, and names on the way to it are new or lead to tables. -/
theorem Distinct.atHeader {last : Option Node → Option Node}
    (hlast : ∀ o n, (∀ m, o = some m → m.Distinct) → last o = some n → n.Distinct) :
    ∀ (path : List String) {fields fields' : Fields}, Distinct fields →
      atHeader last path fields = some fields' → Distinct fields'
  | [], _, _, _, h => by simp [Fields.atHeader] at h
  | [k], fields, fields', hfields, h => by
    rw [Fields.atHeader] at h
    obtain ⟨n, hn, rfl⟩ := Option.map_eq_some_iff.mp h
    exact hfields.put (hlast _ n (fun m hm => hfields.get? hm) hn)
  | k :: k' :: ks, fields, fields', hfields, h => by
    rw [Fields.atHeader] at h
    split at h
    next hget =>
      obtain ⟨inner, hinner, rfl⟩ := Option.map_eq_some_iff.mp h
      exact hfields.put (n := .table .implied inner)
        (atHeader hlast (k' :: ks) emptyDistinct hinner)
    next origin inner hget =>
      obtain ⟨inner', hinner, rfl⟩ := Option.map_eq_some_iff.mp h
      exact hfields.put (n := .table origin inner')
        (atHeader hlast (k' :: ks) (hfields.get? hget) hinner)
    next done last' hget =>
      obtain ⟨tail, -, rfl⟩ := Option.map_eq_some_iff.mp h
      exact hfields.put (n := .tables done tail) trivial
    · simp at h

theorem Distinct.openTable {path : List String} {fields fields' : Fields}
    (hfields : Distinct fields) (h : fields.openTable path = some fields') :
    Distinct fields' := by
  refine hfields.atHeader (fun o n ho hn => ?_) path h
  split at hn
  · obtain rfl := Option.some.inj hn
    trivial
  next inner =>
    obtain rfl := Option.some.inj hn
    exact ho (.table .implied inner) rfl
  · simp at hn

theorem Distinct.openElement {path : List String} {fields fields' : Fields}
    (hfields : Distinct fields) (h : fields.openElement path = some fields') :
    Distinct fields' := by
  refine hfields.atHeader (fun o n ho hn => ?_) path h
  split at hn
  · obtain rfl := Option.some.inj hn
    trivial
  · obtain rfl := Option.some.inj hn
    trivial
  · simp at hn

theorem Distinct.addUnder {header path : List String} {v : Value} {fields fields' : Fields}
    (hv : v.Distinct) (hfields : Distinct fields)
    (h : fields.addUnder header path v = some fields') : Distinct fields' := by
  cases header with
  | nil => exact Distinct.addEntry hv path hfields h
  | cons k ks =>
    refine hfields.atHeader (fun o n ho hn => ?_) _ h
    split at hn
    next origin inner =>
      obtain ⟨inner', hinner, rfl⟩ := Option.map_eq_some_iff.mp hn
      exact Distinct.addEntry hv path (ho (.table origin inner) rfl) hinner
    next done last =>
      obtain ⟨last', -, rfl⟩ := Option.map_eq_some_iff.mp hn
      trivial
    · simp at hn

end Fields

/-! ## Reading values -/

/-! A value in one piece is no table. -/

theorem distinct_of_natural? {base : Nat} {cs : List Char} {v : Value}
    (h : natural? base cs = some v) : v.Distinct := by
  unfold natural? at h
  split at h
  · split at h
    · obtain rfl := Option.some.inj h
      trivial
    · simp at h
  · simp at h

theorem distinct_of_named? {cs : List Char} {v : Value} (h : named? cs = some v) :
    v.Distinct := by
  unfold named? at h
  dsimp only at h
  split at h
  · obtain rfl := Option.some.inj h
    trivial
  · split at h
    · obtain rfl := Option.some.inj h
      trivial
    · simp at h

theorem distinct_of_integer? {cs : List Char} {v : Value} (h : integer? cs = some v) :
    v.Distinct := by
  unfold integer? at h
  dsimp only at h
  split at h
  · split at h
    · split at h
      · obtain rfl := Option.some.inj h
        trivial
      · simp at h
    · split at h
      · obtain rfl := Option.some.inj h
        trivial
      · simp at h
  · simp at h

theorem distinct_of_fraction? {cs : List Char} {v : Value} (h : fraction? cs = some v) :
    v.Distinct := by
  have hend : ∀ (negative : Bool) (before power : List Char) (places? : Option (List Nat)),
      (places?.bind fun places => (whole? before).bind fun ds => (exponent? power).bind fun e =>
        if (Binary64.ofDecimal negative (Digits.value 10 (ds ++ places))
            (e - places.length)).isInfinite then none
        else some (Value.float (Binary64.ofDecimal negative (Digits.value 10 (ds ++ places))
            (e - places.length)))) = some v → v.Distinct := by
    intro negative before power places? h
    simp only [Option.bind_eq_some_iff] at h
    obtain ⟨_, _, _, _, _, _, h⟩ := h
    split at h
    · simp at h
    · obtain rfl := Option.some.inj h
      trivial
  simp only [fraction?, Option.bind_eq_bind] at h
  split at h
  · split at h
    · exact hend _ _ _ none h
    · exact hend _ _ _ (some []) h
  · exact hend _ _ _ (digits? 10 _) h

theorem distinct_of_atom? {cs : List Char} {v : Value} (h : atom? cs = some v) :
    v.Distinct := by
  unfold atom? at h
  split at h
  · exact distinct_of_natural? h
  · exact distinct_of_natural? h
  · exact distinct_of_natural? h
  · split at h
    · obtain rfl := Option.some.inj h
      trivial
    · split at h
      · obtain rfl := Option.some.inj h
        trivial
      · rcases Option.or_eq_some_iff.mp h with h | ⟨-, h⟩
        · rcases Option.or_eq_some_iff.mp h with h | ⟨-, h⟩
          · exact distinct_of_named? h
          · exact distinct_of_integer? h
        · exact distinct_of_fraction? h

theorem distinct_of_scalar? {cs rest : List Char} {v : Value} (h : scalar? cs = some (v, rest)) :
    v.Distinct := by
  unfold scalar? at h
  split at h
  · obtain ⟨rfl, -⟩ := Prod.mk.inj (Option.some.inj h)
    trivial
  · obtain ⟨v', hv', heq⟩ := Option.map_eq_some_iff.mp h
    obtain ⟨rfl, -⟩ := Prod.mk.inj heq
    exact distinct_of_atom? hv'

section Read

variable {read : List Char → Option (Value × List Char)}
  (hread : ∀ cs v rest, read cs = some (v, rest) → v.Distinct)
include hread

theorem distinct_of_pair {skip : List Char → Option (List Char)} {cs rest : List Char}
    {p : List String × Value} (h : pair skip read cs = some (p, rest)) : p.2.Distinct := by
  simp only [pair, Option.bind_eq_bind, Option.bind_eq_some_iff, Option.pure_def, Prod.exists,
    Option.some.injEq, Prod.mk.injEq] at h
  obtain ⟨_, _, _, _, _, _, _, _, _, v, _, hv, rfl, -⟩ := h
  exact hread _ _ _ hv

theorem distinct_of_pairs : ∀ (limit : Nat) (cs : List Char) {ps : List (List String × Value)}
    {rest : List Char}, pairs read limit cs = some (ps, rest) → ∀ p ∈ ps, p.2.Distinct
  | 0, _, _, _, h => by simp [pairs] at h
  | limit + 1, cs, ps, rest, h => by
    rw [pairs] at h
    obtain ⟨cs', -, h⟩ := Option.bind_eq_some_iff.mp h
    split at h
    · obtain ⟨rfl, -⟩ := Prod.mk.inj (Option.some.inj h)
      simp
    · obtain ⟨⟨p, cs''⟩, hp, h⟩ := Option.bind_eq_some_iff.mp h
      have hp' := distinct_of_pair hread hp
      obtain ⟨cs₃, -, h⟩ := Option.bind_eq_some_iff.mp h
      split at h
      · obtain ⟨⟨ps', cs₄⟩, hps, h⟩ := Option.bind_eq_some_iff.mp h
        obtain ⟨rfl, -⟩ := Prod.mk.inj (Option.some.inj h)
        exact List.forall_mem_cons.mpr ⟨hp', distinct_of_pairs limit _ hps⟩
      · obtain ⟨rfl, -⟩ := Prod.mk.inj (Option.some.inj h)
        exact List.forall_mem_singleton.mpr hp'
      · simp at h

end Read

theorem distinct_of_inlineTable? {ps : List (List String × Value)} {v : Value}
    (hps : ∀ p ∈ ps, p.2.Distinct) (h : inlineTable? ps = some v) : v.Distinct := by
  obtain ⟨fields, hfields, rfl⟩ := Option.map_eq_some_iff.mp h
  have hfold : ∀ (ps : List (List String × Value)) (fs : Fields), (∀ p ∈ ps, p.2.Distinct) →
      Fields.Distinct fs →
      ps.foldlM (fun fields (path, v) => Fields.addEntry v path fields) fs = some fields →
      Fields.Distinct fields := by
    intro ps
    induction ps with
    | nil =>
      intro fs _ hfs h
      obtain rfl := Option.some.inj h
      exact hfs
    | cons p ps ih =>
      intro fs hps hfs h
      obtain ⟨hp, hps⟩ := List.forall_mem_cons.mp hps
      rw [List.foldlM_cons] at h
      obtain ⟨fs', hfs', h⟩ := Option.bind_eq_some_iff.mp h
      exact ih fs' hps (Fields.Distinct.addEntry hp p.1 hfs hfs') h
  exact Fields.Distinct.fieldValues (hfold ps [] hps Fields.emptyDistinct hfields)

theorem distinct_of_value : ∀ (depth : Nat) (cs : List Char) (v : Value) (rest : List Char),
    value depth cs = some (v, rest) → v.Distinct
  | 0, _, _, _, h => by simp [value] at h
  | depth + 1, cs, v, rest, h => by
    unfold value at h
    split at h
    · split at h
      · simp at h
      · obtain ⟨_, -, heq⟩ := Option.map_eq_some_iff.mp h
        obtain ⟨rfl, -⟩ := Prod.mk.inj heq
        trivial
    · split at h
      · simp at h
      · obtain ⟨⟨ps, cs'⟩, hps, h⟩ := Option.bind_eq_some_iff.mp h
        obtain ⟨v', hv', h⟩ := Option.bind_eq_some_iff.mp h
        obtain ⟨rfl, -⟩ := Prod.mk.inj (Option.some.inj h)
        exact distinct_of_inlineTable? (distinct_of_pairs (distinct_of_value depth) _ _ hps) hv'
    · obtain ⟨_, -, heq⟩ := Option.map_eq_some_iff.mp h
      obtain ⟨rfl, -⟩ := Prod.mk.inj heq
      trivial
    · obtain ⟨_, -, heq⟩ := Option.map_eq_some_iff.mp h
      obtain ⟨rfl, -⟩ := Prod.mk.inj heq
      trivial
    · exact distinct_of_scalar? h

/-! ## Reading lines -/

/-- The same of the value that a line enters. -/
def Line.Distinct : Line → Prop
  | .entry _ v => v.Distinct
  | _ => True

theorem distinct_of_line {cs rest : List Char} {l : Line} (h : line cs = some (l, rest)) :
    l.Distinct := by
  unfold line at h
  split at h
  · simp only [Option.bind_eq_bind, Option.bind_eq_some_iff, Option.pure_def, Option.some.injEq,
      Prod.mk.injEq] at h
    obtain ⟨_, _, _, _, _, _, _, _, rfl, -⟩ := h
    trivial
  · simp only [Option.bind_eq_bind, Option.bind_eq_some_iff, Option.pure_def, Option.some.injEq,
      Prod.mk.injEq] at h
    obtain ⟨_, _, _, _, _, _, rfl, -⟩ := h
    trivial
  · obtain ⟨⟨⟨path, v⟩, cs'⟩, hpair, h⟩ := Option.bind_eq_some_iff.mp h
    obtain ⟨_, -, h⟩ := Option.bind_eq_some_iff.mp h
    obtain ⟨rfl, -⟩ := Prod.mk.inj (Option.some.inj h)
    exact distinct_of_pair (distinct_of_value _) hpair

theorem distinct_of_linesUpTo : ∀ (limit : Nat) (cs : List Char) {ls : List Line},
    linesUpTo limit cs = some ls → ∀ l ∈ ls, l.Distinct
  | 0, _, _, h => by simp [linesUpTo] at h
  | limit + 1, cs, ls, h => by
    rw [linesUpTo] at h
    obtain ⟨cs', -, h⟩ := Option.bind_eq_some_iff.mp h
    split at h
    · obtain rfl := Option.some.inj h
      simp
    · obtain ⟨⟨l, cs''⟩, hl, h⟩ := Option.bind_eq_some_iff.mp h
      obtain ⟨ls', hls, h⟩ := Option.bind_eq_some_iff.mp h
      obtain rfl := Option.some.inj h
      exact List.forall_mem_cons.mpr ⟨distinct_of_line hl, distinct_of_linesUpTo limit _ hls⟩

/-- Lines keep the names of a table distinct. -/
theorem build_distinct : ∀ (ls : List Line) (header : List String) {fields fields' : Fields},
    (∀ l ∈ ls, l.Distinct) → Fields.Distinct fields → build ls header fields = some fields' →
    Fields.Distinct fields'
  | [], _, fields, fields', _, hfields, h => by
    obtain rfl := Option.some.inj h
    exact hfields
  | l :: ls, header, fields, fields', hls, hfields, h => by
    obtain ⟨hl, hls'⟩ := List.forall_mem_cons.mp hls
    cases l with
    | table path =>
      obtain ⟨fields₁, h₁, h⟩ := Option.bind_eq_some_iff.mp h
      exact build_distinct ls path hls' (hfields.openTable h₁) h
    | element path =>
      obtain ⟨fields₁, h₁, h⟩ := Option.bind_eq_some_iff.mp h
      exact build_distinct ls path hls' (hfields.openElement h₁) h
    | entry path v =>
      obtain ⟨fields₁, h₁, h⟩ := Option.bind_eq_some_iff.mp h
      exact build_distinct ls header hls' (Fields.Distinct.addUnder hl hfields h₁) h

/-- No document gives a name twice. -/
theorem Document.distinct_of_parse? {s : String} {d : Document} (h : Document.parse? s = some d) :
    FieldsDistinct d := by
  simp only [Document.parse?, Option.bind_eq_bind, Option.bind_eq_some_iff, Option.pure_def,
    Option.some.injEq] at h
  obtain ⟨ls, hls, fields, hfields, rfl⟩ := h
  exact Fields.Distinct.fieldValues
    (build_distinct ls [] (distinct_of_linesUpTo _ _ hls) Fields.emptyDistinct hfields)

end Toml

end ProxyHeader
