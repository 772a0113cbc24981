import Mathlib.Tactic.Common
import ProxyHeader.Settings

/-!
# Settings in a tree

Settings are collected from a tree exactly if each of them can be read there, in whatever
order this is done (`Settings.collect_eq_ok_iff`). Trees with the same values at all keys come
to the same settings (`Settings.ofTree_congr`).

`Value.overwrite` sets the value at a key. A group that is no table becomes one, and thus has
no other setting any more; apart from this the other keys are left as they are
(`Key.readIn_overwrite`). `Value.overlay` overwrites several keys at once, and
`Key.readIn_overlay` says what is read of the tree afterwards.
-/

namespace ProxyHeader

namespace Settings

/-- A setting, given the value that is found for it. -/
def Key.read (k : Key) : Option Value → Except LoadError k.Carrier
  | some v => k.coerce k.place v
  | none => .ok k.fallback

/-! ## Settings from the value at each key -/

theorem eq_ok_of_toOption {ε α : Type} {x : Except ε α} {a : α} (h : x.toOption = some a) :
    x = .ok a := by
  cases x with
  | error e => exact absurd h (Option.some_ne_none a).symm
  | ok b => rw [Option.some.inj h]

/-- A chain that comes to a value has come to one at its first step. -/
theorem exists_of_bind_eq_ok {ε α β : Type} {x : Except ε α} {f : α → Except ε β} {b : β}
    (h : x >>= f = .ok b) : ∃ a, x = .ok a ∧ f a = .ok b := by
  cases x with
  | error e => cases h
  | ok a => exact ⟨a, rfl, h⟩

section Collect

variable {host : Host} {read : (k : Key) → Except LoadError k.Carrier}

/-- Reading settings one after the other comes to an end if all of them can be read. -/
theorem forM_discard_eq_ok (hread : ∀ k, ∃ x, read k = .ok x) :
    ∀ ks : List Key, ks.forM (fun k => discard (read k)) = .ok ()
  | [] => rfl
  | k :: ks => by
    obtain ⟨x, hx⟩ := hread k
    have ih := forM_discard_eq_ok hread ks
    rw [List.forM, hx]
    exact ih

/-- All settings are collected if each of them can be read, in whatever order. -/
theorem exists_collect_eq_ok (host : Host) (h : ∀ k, ∃ x, read k = .ok x) :
    ∃ s, collect host read = .ok s := by
  obtain ⟨b, hb⟩ := h .bindAddress
  obtain ⟨t, ht⟩ := h .timeout
  obtain ⟨l, hl⟩ := h .level
  obtain ⟨f, hf⟩ := h .format
  refine ⟨⟨b, t, l, f⟩, ?_⟩
  rw [collect, forM_discard_eq_ok h, hb, ht, hl, hf]
  rfl

theorem read_of_collect_eq_ok {s : Settings} (h : collect host read = .ok s) (k : Key) :
    read k = .ok (s.get k) := by
  obtain ⟨_, -, h⟩ := exists_of_bind_eq_ok h
  obtain ⟨b, hb, h⟩ := exists_of_bind_eq_ok h
  obtain ⟨t, ht, h⟩ := exists_of_bind_eq_ok h
  obtain ⟨l, hl, h⟩ := exists_of_bind_eq_ok h
  obtain ⟨f, hf, h⟩ := exists_of_bind_eq_ok h
  obtain rfl := Except.ok.inj h
  cases k with
  | bindAddress => exact hb
  | timeout => exact ht
  | level => exact hl
  | format => exact hf

/-- Settings are their values. -/
theorem eq_of_get_eq {s s' : Settings} (h : ∀ k, s.get k = s'.get k) : s = s' := by
  obtain ⟨b, t, l, f⟩ := s
  obtain ⟨b', t', l', f'⟩ := s'
  have hb : b = b' := h .bindAddress
  have ht : t = t' := h .timeout
  have hl : l = l' := h .level
  have hf : f = f' := h .format
  rw [hb, ht, hl, hf]

theorem collect_eq_ok_iff {s : Settings} :
    collect host read = .ok s ↔ ∀ k, read k = .ok (s.get k) := by
  refine ⟨read_of_collect_eq_ok, fun h => ?_⟩
  obtain ⟨s', hs'⟩ := exists_collect_eq_ok host fun k => ⟨s.get k, h k⟩
  rw [hs', eq_of_get_eq fun k =>
    Except.ok.inj ((read_of_collect_eq_ok hs' k).symm.trans (h k))]

/-- Settings cannot be read if one of them cannot. -/
theorem collect_eq_error_iff : (∃ e, collect host read = .error e) ↔ ∃ k e, read k = .error e := by
  constructor
  · rintro ⟨e, he⟩
    by_contra hnot
    have hall : ∀ k, ∃ x, read k = .ok x := fun k => by
      cases hk : read k with
      | ok x => exact ⟨x, rfl⟩
      | error e => exact absurd ⟨k, e, hk⟩ hnot
    obtain ⟨s, hs⟩ := exists_collect_eq_ok host hall
    exact absurd (he.symm.trans hs) nofun
  · rintro ⟨k, e, hk⟩
    cases hs : collect host read with
    | error e => exact ⟨e, rfl⟩
    | ok s => exact absurd (hk.symm.trans (read_of_collect_eq_ok hs k)) nofun

end Collect

theorem ofTree_congr (host : Host) {root root' : Value}
    (h : ∀ k : Key, k.readIn root = k.readIn root') : ofTree host root = ofTree host root' := by
  have hread : (Key.readIn · root) = (Key.readIn · root') := funext h
  rw [ofTree, ofTree, hread]

/-! ## Leaves -/

namespace Value

/-- The value of a group, which is `nil` if there is none. -/
def groupAt (g : Group) (root : Value) : Value :=
  (root.get? g.name).getD nil

/-- The value at a key, of which there is none if the group is no table. -/
def leaf? (k : Key) (root : Value) : Option Value :=
  (groupAt k.group root).get? k.name

/-- Sets the value at a key. A group that is no table is replaced by one. -/
def overwrite (root : Value) (k : Key) (v : Value) : Value :=
  table (Entries.put k.group.name
    (table (Entries.put k.name v (groupAt k.group root).fields)) root.fields)

theorem get?_overwrite (root : Value) (k : Key) (v : Value) (g : Group) :
    (root.overwrite k v).get? g.name =
      if k.group = g then some (table (Entries.put k.name v (groupAt g root).fields))
      else root.get? g.name := by
  have hname : k.group.name = g.name ↔ k.group = g := ⟨Group.eq_of_name_eq, congrArg _⟩
  rw [get?, overwrite, fields, Entries.get?_put]
  by_cases h : k.group = g
  · rw [if_pos (hname.mpr h), if_pos h, h]
  · rw [if_neg (mt hname.mp h), if_neg h]
    rfl

theorem groupAt_overwrite (root : Value) (k : Key) (v : Value) (g : Group) :
    groupAt g (root.overwrite k v) =
      if k.group = g then table (Entries.put k.name v (groupAt g root).fields)
      else groupAt g root := by
  rw [groupAt, get?_overwrite]
  split <;> rfl

theorem leaf?_overwrite (root : Value) (k k' : Key) (v : Value) :
    leaf? k' (root.overwrite k v) = if k = k' then some v else leaf? k' root := by
  rw [leaf?, groupAt_overwrite]
  by_cases hgroup : k.group = k'.group
  · rw [if_pos hgroup, get?, fields, Entries.get?_put]
    by_cases hname : k.name = k'.name
    · rw [if_pos hname, if_pos (Key.eq_of_name_eq hgroup hname)]
    · rw [if_neg hname, if_neg fun h => hname (congrArg _ h)]
      rfl
  · rw [if_neg hgroup, if_neg fun h => hgroup (congrArg _ h)]
    rfl

end Value

/-! ## What is read of a leaf -/

namespace Key

/-- A setting of a group that is a table is read from its leaf. -/
theorem readIn_of_table {k : Key} {root : Value} {fs : List (String × Value)}
    (h : root.get? k.group.name = some (.table fs)) : k.readIn root = k.read (root.leaf? k) := by
  have hgroup : readGroup k.group root = .ok (.table fs) := by
    rw [readGroup, h]
    rfl
  have hleaf : root.leaf? k = (Value.table fs).get? k.name := by
    rw [Value.leaf?, Value.groupAt, h]
    rfl
  rw [readIn, hgroup, hleaf]
  show readSetting k.coerce k.fallback k.group k.position k.name (.table fs) = _
  have hfind : find? k.group k.position k.name (.table fs) =
      ((Value.table fs).get? k.name).map (·, k.place) := rfl
  rw [readSetting, hfind]
  cases (Value.table fs).get? k.name <;> rfl

/-- Where a group is missing all its settings are. -/
theorem readIn_of_missing {k : Key} {root : Value} (h : root.get? k.group.name = none) :
    k.readIn root = k.read (root.leaf? k) := by
  rw [readIn, readGroup, Value.leaf?, Value.groupAt, h]
  rfl

/-- A setting is read from its group. -/
theorem readIn_congr {k : Key} {root root' : Value}
    (h : root.get? k.group.name = root'.get? k.group.name) : k.readIn root = k.readIn root' := by
  rw [readIn, readIn, readGroup, readGroup, h]

/-- Overwriting a setting makes a table of its group and leaves the other groups as they
are. -/
theorem readIn_overwrite (root : Value) (k k' : Key) (v : Value) :
    k'.readIn (root.overwrite k v) =
      if k.group = k'.group then k'.read ((root.overwrite k v).leaf? k') else k'.readIn root := by
  have hget := Value.get?_overwrite root k v k'.group
  by_cases h : k.group = k'.group
  · rw [if_pos h] at hget ⊢
    exact readIn_of_table hget
  · rw [if_neg h] at hget ⊢
    exact readIn_congr hget

end Key

/-! ## Several keys at once -/

/-- Whether one of the settings of a group has a value in `said`. -/
def saysOf (said : Key → Option Value) (g : Group) : Bool :=
  Key.all.any fun k => k.group = g && (said k).isSome

theorem saysOf_iff {said : Key → Option Value} {g : Group} :
    saysOf said g = true ↔ ∃ k : Key, k.group = g ∧ said k ≠ none := by
  simp [saysOf, Key.mem_all, Option.isSome_iff_ne_none]

/-- Settings with their values, in the order in which they are set. -/
abbrev Assignments := List (Key × Value)

namespace Assignments

/-- What a setting is set to last. -/
def last? (es : Assignments) (k : Key) : Option Value :=
  es.reverse.lookup k

theorem last?_cons (k' : Key) (v : Value) (es : Assignments) (k : Key) :
    last? ((k', v) :: es) k = (es.last? k).or (if k' = k then some v else none) := by
  rw [last?, List.reverse_cons, List.lookup_append]
  congr 1
  by_cases h : k' = k
  · rw [if_pos h, h, List.lookup_cons_self]
  · rw [if_neg h, List.lookup_cons, beq_false_of_ne (Ne.symm h)]
    rfl

theorem last?_ne_none_iff {es : Assignments} {k : Key} :
    es.last? k ≠ none ↔ ∃ e ∈ es, e.1 = k := by
  rw [last?, Ne, List.lookup_eq_none_iff]
  simp only [List.mem_reverse, bne_iff_ne, ne_eq, not_forall, not_not, exists_prop,
    eq_comm (a := k)]

theorem saysOf_last?_iff {es : Assignments} {g : Group} :
    saysOf es.last? g = true ↔ ∃ e ∈ es, e.1.group = g := by
  simp only [saysOf_iff, last?_ne_none_iff]
  constructor
  · rintro ⟨k, hg, e, he, rfl⟩
    exact ⟨e, he, hg⟩
  · rintro ⟨e, he, hg⟩
    exact ⟨e.1, hg, e, he, rfl⟩

end Assignments

namespace Value

/-- Sets the values at several keys, one after the other. -/
def overwriteAll (root : Value) (es : Assignments) : Value :=
  es.foldl (fun root e => root.overwrite e.1 e.2) root

theorem leaf?_overwriteAll (k : Key) : ∀ (es : Assignments) (root : Value),
    (root.overwriteAll es).leaf? k = (es.last? k).or (root.leaf? k)
  | [], _ => rfl
  | (k', v) :: es, root => by
    have hstep : root.overwriteAll ((k', v) :: es) = (root.overwrite k' v).overwriteAll es := rfl
    rw [hstep, leaf?_overwriteAll k es, leaf?_overwrite, Assignments.last?_cons, Option.or_assoc]
    congr 1
    by_cases h : k' = k
    · rw [if_pos h, if_pos h, Option.some_or]
    · rw [if_neg h, if_neg h, Option.none_or]

end Value

namespace Key

/-- Setting several keys makes tables of their groups and leaves the other groups as they
are. -/
theorem readIn_overwriteAll (k : Key) : ∀ (es : Assignments) (root : Value),
    k.readIn (root.overwriteAll es) =
      if saysOf es.last? k.group then k.read ((es.last? k).or (root.leaf? k)) else k.readIn root
  | [], root => by
    rw [if_neg fun h => by simpa using Assignments.saysOf_last?_iff.mp h]
    rfl
  | (k', v) :: es, root => by
    have hstep : root.overwriteAll ((k', v) :: es) = (root.overwrite k' v).overwriteAll es := rfl
    have hleaf := Value.leaf?_overwriteAll k ((k', v) :: es) root
    rw [hstep, Value.leaf?_overwriteAll] at hleaf
    rw [hstep, readIn_overwriteAll k es, hleaf]
    simp only [Assignments.saysOf_last?_iff]
    -- If a later one sets something of the group, the group is a table afterwards anyway.
    by_cases hes : ∃ e ∈ es, e.1.group = k.group
    · rw [if_pos hes, if_pos]
      obtain ⟨e, he, hg⟩ := hes
      exact ⟨e, List.mem_cons_of_mem _ he, hg⟩
    · have hnone : Assignments.last? es k = none := by
        by_contra hne
        obtain ⟨e, he, rfl⟩ := Assignments.last?_ne_none_iff.mp hne
        exact hes ⟨e, he, rfl⟩
      rw [hnone, Option.none_or] at hleaf
      rw [if_neg hes, readIn_overwrite, ← hleaf]
      by_cases hgroup : k'.group = k.group
      · rw [if_pos hgroup, if_pos ⟨(k', v), List.mem_cons_self, hgroup⟩]
      · rw [if_neg hgroup, if_neg]
        rintro ⟨e, he, hg⟩
        rcases List.mem_cons.mp he with rfl | he
        · exact hgroup hg
        · exact hes ⟨e, he, hg⟩

end Key

namespace Value

/-- Sets the values at those keys that have one in `said`. -/
def overlay (root : Value) (said : Key → Option Value) : Value :=
  root.overwriteAll (Key.all.filterMap fun k => (said k).map (k, ·))

end Value

theorem Assignments.last?_filterMap (said : Key → Option Value) (k : Key) :
    last? (Key.all.filterMap fun k => (said k).map (k, ·)) k = said k := by
  have hlookup : ∀ ks : List Key, (ks.filterMap fun k => (said k).map (k, ·)).lookup k =
      if k ∈ ks then said k else none := by
    intro ks
    induction ks with
    | nil => rfl
    | cons k' ks ih =>
      rw [List.filterMap_cons]
      cases hsaid : said k' with
      | none =>
        rw [Option.map_none, ih]
        by_cases hk : k = k'
        · simp [hk, hsaid]
        · simp [hk]
      | some v =>
        rw [Option.map_some, List.lookup_cons]
        by_cases hk : k = k'
        · simp [hk, hsaid]
        · simp [hk, beq_false_of_ne hk, ih]
  rw [last?, ← List.filterMap_reverse, hlookup, if_pos (List.mem_reverse.mpr k.mem_all)]

/-- What is read of a tree after several of its keys were set. -/
theorem Key.readIn_overlay (k : Key) (root : Value) (said : Key → Option Value) :
    k.readIn (root.overlay said) =
      if saysOf said k.group then k.read ((said k).or (root.leaf? k)) else k.readIn root := by
  have hlast : Assignments.last? (Key.all.filterMap fun k => (said k).map (k, ·)) = said :=
    funext (Assignments.last?_filterMap said)
  rw [Value.overlay, readIn_overwriteAll, hlast]

/-- The order in which different keys are set does not matter. -/
theorem ofTree_overwriteAll (host : Host) (root : Value) (es : Assignments) :
    ofTree host (root.overwriteAll es) = ofTree host (root.overlay es.last?) :=
  ofTree_congr host fun k => by rw [Key.readIn_overwriteAll, Key.readIn_overlay]

end Settings

end ProxyHeader
