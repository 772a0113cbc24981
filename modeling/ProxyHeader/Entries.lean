/-!
# Named entries

A table is a list of entries, each a name and what it stands for, in the order in which
the names first came. Putting an entry replaces the one of its name where it stands, or
adds a new one at the end; looking a name up finds what was put there last
(`get?_put`).

Who goes through a table need not do so in this order. A `NameOrder` arranges the names in
any order, and `inOrder` the entries with them: each name comes once and stands for what it
stood for (`names_inOrder`, `get?_inOrder`).
-/

namespace ProxyHeader

namespace Entries

variable {α : Type}

/-! ## Tables -/

/-- What a name stands for. -/
def get? (k : String) : List (String × α) → Option α
  | [] => none
  | (k', a) :: es => if k' = k then some a else get? k es

/-- Lets a name stand for `a`. -/
def put (k : String) (a : α) : List (String × α) → List (String × α)
  | [] => [(k, a)]
  | (k', a') :: es => if k' = k then (k, a) :: es else (k', a') :: put k a es

/-- The names of a table, in order. -/
def names (es : List (String × α)) : List String :=
  es.map Prod.fst

/-- Puts the entries of a list one after the other, so that a name counts as it came last. -/
def putAll (table : List (String × α)) : List (String × α) → List (String × α)
  | [] => table
  | (k, a) :: es => putAll (put k a table) es

theorem get?_put (k k' : String) (a : α) :
    ∀ es : List (String × α), get? k' (put k a es) = if k = k' then some a else get? k' es
  | [] => by simp [put, get?]
  | (x, b) :: es => by
    have ih := get?_put k k' a es
    by_cases hx : x = k
    · subst hx
      by_cases hk : x = k' <;> simp [put, get?, hk]
    · by_cases hk : x = k'
      · subst hk
        simp [put, get?, hx, Ne.symm hx]
      · simp [put, get?, hx, hk, ih]

theorem get?_eq_none {k : String} :
    ∀ {es : List (String × α)}, k ∉ names es → get? k es = none
  | [], _ => rfl
  | (x, b) :: es, h => by
    simp only [names, List.map_cons, List.mem_cons, not_or] at h
    rw [get?, if_neg (Ne.symm h.1)]
    exact get?_eq_none h.2

theorem exists_get? {k : String} :
    ∀ {es : List (String × α)}, k ∈ names es → ∃ a, (k, a) ∈ es ∧ get? k es = some a
  | (x, b) :: es, h => by
    by_cases hx : x = k
    · exact ⟨b, hx ▸ List.mem_cons_self, by rw [get?, if_pos hx]⟩
    · obtain ⟨a, ha, hget⟩ := exists_get? ((List.mem_cons.mp h).resolve_left (Ne.symm hx))
      exact ⟨a, List.mem_cons_of_mem _ ha, by rw [get?, if_neg hx, hget]⟩

/-- Of distinct names each stands for what comes with it. -/
theorem get?_of_mem {k : String} {a : α} : ∀ {es : List (String × α)},
    (names es).Nodup → (k, a) ∈ es → get? k es = some a
  | (x, b) :: es, h, hmem => by
    obtain ⟨hx, hes⟩ := List.nodup_cons.mp h
    rcases List.mem_cons.mp hmem with heq | hmem
    · obtain ⟨rfl, rfl⟩ := Prod.mk.inj heq
      rw [get?, if_pos rfl]
    · have hk : k ∈ es.map Prod.fst := List.mem_map_of_mem (f := Prod.fst) hmem
      have hne : x ≠ k := fun hxk => hx (hxk ▸ hk)
      rw [get?, if_neg hne, get?_of_mem hes hmem]

theorem put_eq_append {k : String} (a : α) :
    ∀ {es : List (String × α)}, k ∉ names es → put k a es = es ++ [(k, a)]
  | [], _ => rfl
  | (x, b) :: es, h => by
    simp only [names, List.map_cons, List.mem_cons, not_or] at h
    rw [put, if_neg (Ne.symm h.1), put_eq_append a h.2, List.cons_append]

theorem names_put_of_mem {k : String} (a : α) :
    ∀ {es : List (String × α)}, k ∈ names es → names (put k a es) = names es
  | (x, b) :: es, h => by
    by_cases hx : x = k
    · rw [put, if_pos hx, ← hx]
      rfl
    · have hmem : k ∈ names es := (List.mem_cons.mp h).resolve_left (Ne.symm hx)
      rw [put, if_neg hx]
      exact congrArg (x :: ·) (names_put_of_mem a hmem)

theorem names_put_of_not_mem {k : String} (a : α) {es : List (String × α)} (h : k ∉ names es) :
    names (put k a es) = names es ++ [k] := by
  rw [put_eq_append a h, names, List.map_append]
  rfl

theorem mem_names_put (k k' : String) (a : α) (es : List (String × α)) :
    k' ∈ names (put k a es) ↔ k' = k ∨ k' ∈ names es := by
  by_cases h : k ∈ names es
  · rw [names_put_of_mem a h]
    exact ⟨Or.inr, fun h' => h'.elim (fun heq => heq ▸ h) id⟩
  · rw [names_put_of_not_mem a h, List.mem_append, List.mem_singleton, or_comm]

theorem nodup_names_put (k : String) (a : α) {es : List (String × α)} (h : (names es).Nodup) :
    (names (put k a es)).Nodup := by
  by_cases hk : k ∈ names es
  · rw [names_put_of_mem a hk]
    exact h
  · rw [names_put_of_not_mem a hk, List.nodup_append]
    refine ⟨h, by simp, fun x hx y hy hxy => hk ?_⟩
    rwa [← List.mem_singleton.mp hy, ← hxy]

theorem names_put_congr (k : String) (a b : α) {es es' : List (String × α)}
    (h : names es = names es') : names (put k a es) = names (put k b es') := by
  by_cases hk : k ∈ names es
  · rw [names_put_of_mem a hk, names_put_of_mem b (h ▸ hk), h]
  · rw [names_put_of_not_mem a hk, names_put_of_not_mem b (h ▸ hk), h]

/-! ## Many entries -/

theorem get?_append (k : String) :
    ∀ es es' : List (String × α), get? k (es ++ es') = (get? k es).or (get? k es')
  | [], _ => by simp [get?]
  | (x, b) :: es, es' => by
    rw [List.cons_append, get?, get?, get?_append k es es']
    split <;> simp

theorem get?_reverse (k : String) : ∀ {es : List (String × α)}, (names es).Nodup →
    get? k es.reverse = get? k es
  | [], _ => rfl
  | (x, b) :: es, h => by
    obtain ⟨hx, hes⟩ := List.nodup_cons.mp h
    rw [List.reverse_cons, get?_append, get?_reverse k hes]
    by_cases hk : x = k
    · have hnone : get? k es = none := get?_eq_none (hk ▸ hx)
      simp [get?, hk, hnone]
    · simp [get?, hk]

theorem get?_putAll (k : String) : ∀ (es table : List (String × α)),
    get? k (putAll table es) = (get? k es.reverse).or (get? k table)
  | [], _ => by simp [putAll, get?]
  | (x, b) :: es, table => by
    rw [putAll, get?_putAll k es, get?_put, List.reverse_cons, get?_append, Option.or_assoc]
    congr 1
    by_cases hx : x = k <;> simp [get?, hx]

theorem mem_names_putAll {k : String} : ∀ {es table : List (String × α)},
    k ∈ names (putAll table es) ↔ k ∈ names es ∨ k ∈ names table
  | [], table => by simp [putAll, names]
  | (x, b) :: es, table => by
    rw [putAll, mem_names_putAll, mem_names_put, ← or_assoc]
    have hcons : k ∈ names ((x, b) :: es) ↔ k = x ∨ k ∈ names es := List.mem_cons
    rw [hcons, or_comm (a := k = x)]

theorem nodup_names_putAll : ∀ (es : List (String × α)) {table : List (String × α)},
    (names table).Nodup → (names (putAll table es)).Nodup
  | [], _, h => h
  | (k, a) :: es, _, h => nodup_names_putAll es (nodup_names_put k a h)

/-- Which names there are, and in which order, does not depend on what they stand for. -/
theorem names_putAll_congr : ∀ {es es' table table' : List (String × α)},
    names es = names es' → names table = names table' →
      names (putAll table es) = names (putAll table' es')
  | [], [], _, _, _, h => h
  | (k, a) :: es, (k', b) :: es', _, _, hes, h => by
    obtain ⟨rfl, hrest⟩ := List.cons.inj hes
    rw [putAll, putAll]
    exact names_putAll_congr hrest (names_put_congr k a b h)

/-! ## Orders -/

/-- The entries of some names of a table. -/
def pick (ks : List String) (es : List (String × α)) : List (String × α) :=
  ks.filterMap fun k => (get? k es).map (k, ·)

theorem get?_pick (k : String) (es : List (String × α)) :
    ∀ ks : List String, get? k (pick ks es) = if k ∈ ks then get? k es else none
  | [] => rfl
  | k' :: ks => by
    have ih := get?_pick k es ks
    rw [pick, List.filterMap_cons]
    cases hget : get? k' es with
    | none =>
      rw [Option.map_none, ← pick, ih]
      by_cases hk : k = k'
      · simp [hk, hget]
      · simp [hk]
    | some a =>
      rw [Option.map_some, get?, ← pick, ih]
      by_cases hk : k' = k
      · simp [← hk, hget]
      · simp [hk, Ne.symm hk]

theorem names_pick {es : List (String × α)} : ∀ {ks : List String},
    (∀ k ∈ ks, k ∈ names es) → names (pick ks es) = ks
  | [], _ => rfl
  | k :: ks, h => by
    obtain ⟨hk, hks⟩ := List.forall_mem_cons.mp h
    obtain ⟨a, -, hget⟩ := exists_get? hk
    rw [pick, List.filterMap_cons, hget]
    exact congrArg (k :: ·) (names_pick hks)

end Entries

/-- An order in which names are gone through. -/
structure NameOrder where
  arrange : List String → List String
  arrange_perm : ∀ ks, (arrange ks).Perm ks

/-- Names as they are given. -/
def NameOrder.asGiven : NameOrder :=
  ⟨id, fun _ => .refl _⟩

namespace Entries

variable {α : Type} (o : NameOrder) (es : List (String × α))

/-- The entries of a table in an order of its names. -/
def inOrder : List (String × α) :=
  pick (o.arrange (names es)) es

theorem names_inOrder : names (inOrder o es) = o.arrange (names es) :=
  names_pick fun _ hk => (o.arrange_perm _).mem_iff.mp hk

theorem mem_names_inOrder {k : String} : k ∈ names (inOrder o es) ↔ k ∈ names es := by
  rw [names_inOrder, (o.arrange_perm _).mem_iff]

theorem mem_of_mem_inOrder {o : NameOrder} {es : List (String × α)} {e : String × α}
    (h : e ∈ inOrder o es) : e ∈ es := by
  obtain ⟨k, hk, hget⟩ := List.mem_filterMap.mp h
  obtain ⟨a, ha, hget'⟩ := exists_get? ((o.arrange_perm _).mem_iff.mp hk)
  rw [hget', Option.map_some] at hget
  exact Option.some.inj hget ▸ ha

theorem nodup_names_inOrder (h : (names es).Nodup) : (names (inOrder o es)).Nodup := by
  rw [names_inOrder]
  exact (o.arrange_perm _).nodup_iff.mpr h

theorem get?_inOrder (k : String) : get? k (inOrder o es) = get? k es := by
  rw [inOrder, get?_pick]
  split
  next => rfl
  next h => exact (get?_eq_none (mt (o.arrange_perm _).mem_iff.mpr h)).symm

theorem pick_congr {es es' : List (String × α)} : ∀ {ks : List String},
    (∀ k ∈ ks, get? k es = get? k es') → pick ks es = pick ks es'
  | [], _ => rfl
  | k :: ks, h => by
    obtain ⟨hk, hks⟩ := List.forall_mem_cons.mp h
    rw [pick, pick, List.filterMap_cons, List.filterMap_cons, hk, ← pick, ← pick, pick_congr hks]

/-- The entry of one name in an order of all, with what stands in front of it and behind it. That
is the same for all tables with the same names that differ at this name only. -/
theorem exists_inOrder_eq_append (o : NameOrder) {k : String} {es : List (String × α)}
    (hnodup : (names es).Nodup) (hk : k ∈ names es) : ∃ front back,
      (∀ e ∈ back, e ∈ es ∧ e.1 ≠ k) ∧ ∀ (es' : List (String × α)) (a : α),
        names es' = names es → get? k es' = some a → (∀ k' ≠ k, get? k' es' = get? k' es) →
          inOrder o es' = front ++ (k, a) :: back := by
  obtain ⟨ks₁, ks₂, hks⟩ := List.append_of_mem ((o.arrange_perm _).mem_iff.mpr hk)
  have harranged : (ks₁ ++ k :: ks₂).Nodup := hks ▸ (o.arrange_perm _).nodup_iff.mpr hnodup
  obtain ⟨-, hk₂, hdisjoint⟩ := List.nodup_append.mp harranged
  have hne₁ : ∀ k' ∈ ks₁, k' ≠ k := fun k' hk' => hdisjoint k' hk' k List.mem_cons_self
  have hne₂ : ∀ k' ∈ ks₂, k' ≠ k := fun k' hk' heq => (List.nodup_cons.mp hk₂).1 (heq ▸ hk')
  refine ⟨pick ks₁ es, pick ks₂ es, fun e he => ?_, fun es' a hnames hget hothers => ?_⟩
  · obtain ⟨k', hk', he'⟩ := List.mem_filterMap.mp he
    have hmem : e ∈ inOrder o es :=
      List.mem_filterMap.mpr ⟨k', hks ▸ List.mem_append_right _ (List.mem_cons_of_mem _ hk'), he'⟩
    obtain ⟨a, -, rfl⟩ := Option.map_eq_some_iff.mp he'
    exact ⟨mem_of_mem_inOrder hmem, hne₂ k' hk'⟩
  · rw [inOrder, hnames, hks, pick, List.filterMap_append, List.filterMap_cons, hget, ← pick,
      ← pick, pick_congr fun k' hk' => hothers k' (hne₁ k' hk'),
      pick_congr fun k' hk' => hothers k' (hne₂ k' hk')]
    rfl

end Entries

end ProxyHeader
