import ProxyHeader.Proofs.SettingsSources

/-!
# Settings that are spared

A path spares a setting if it leads to another group, or to another name in its group. Two trees
that are `DifferAt` a setting hold different values for it and agree elsewhere, and stay so
whatever is set at paths that spare it.

Variables are entered in an order that is up to the host, but among variables that spare a
setting the one that is its own has the last word wherever it comes (`entries_eq_append`). So a
setting is as its own last variable says (`get_of_load_of_own`), and the other settings are the
same for every text of that variable (`load_of_variable`).
-/

namespace ProxyHeader

namespace Settings

/-! ## Trees that differ at one setting -/

/-- Whether setting a value at a path leaves a setting of a group that is a table as it is. -/
def Path.spares (k : Key) : Path → Bool
  | .entry g :: .entry name :: _ => g ≠ k.group.name || name ≠ k.name
  | .entry g :: _ => g ≠ k.group.name
  | _ => false

/-- A spared setting is in another group, or has another name in its group. -/
theorem Path.exists_of_spares {k : Key} {p : Path} (h : p.spares k = true) :
    ∃ g p', p = .entry g :: p' ∧ (g = k.group.name →
      ∃ name p'', p' = .entry name :: p'' ∧ name ≠ k.name) := by
  unfold spares at h
  split at h
  next g name p'' =>
    refine ⟨g, .entry name :: p'', rfl, fun hg => ⟨name, p'', rfl, ?_⟩⟩
    simpa [hg] using h
  next g p' _ => exact ⟨g, p', rfl, fun hg => absurd hg (by simpa using h)⟩
  next => exact absurd h (by decide)

theorem Value.get?_modify_entry (f : Value → Value) (k : String) (p : Path) (root : Value)
    (name : String) : (modify f (.entry k :: p) root).get? name =
      if k = name then some (modify f p ((root.get? k).getD nil)) else root.get? name := by
  rw [modify, get?, fields, Entries.get?_put]
  rfl

/-- Two trees hold `x` and `y` for a setting, whose group is a table in both, and agree in all
else. -/
structure DifferAt (k : Key) (x y a b : Value) : Prop where
  elsewhere : ∀ name, name ≠ k.group.name → a.get? name = b.get? name
  group : ∃ fs gs, a.get? k.group.name = some (.table fs) ∧
    b.get? k.group.name = some (.table gs) ∧
    Entries.get? k.name fs = some x ∧ Entries.get? k.name gs = some y ∧
    ∀ name, name ≠ k.name → Entries.get? name fs = Entries.get? name gs

namespace DifferAt

variable {k : Key} {x y a b : Value}

theorem overwrite (root : Value) (k : Key) (x y : Value) :
    DifferAt k x y (root.overwrite k x) (root.overwrite k y) where
  elsewhere name hname := by
    rw [Value.overwrite, Value.get?, Value.get?, Value.fields, Value.overwrite, Value.fields,
      Entries.get?_put, Entries.get?_put, if_neg hname.symm, if_neg hname.symm]
  group := by
    have hx := Value.get?_overwrite root k x k.group
    have hy := Value.get?_overwrite root k y k.group
    rw [if_pos rfl] at hx hy
    refine ⟨_, _, hx, hy, ?_, ?_, fun name hname => ?_⟩
    · rw [Entries.get?_put, if_pos rfl]
    · rw [Entries.get?_put, if_pos rfl]
    · rw [Entries.get?_put, Entries.get?_put, if_neg hname.symm, if_neg hname.symm]

/-- Setting a value at a path that spares the setting keeps trees that differ at it. -/
theorem set (h : DifferAt k x y a b) {p : Path} (hp : p.spares k = true) (v : Value) :
    DifferAt k x y (a.set p v) (b.set p v) := by
  obtain ⟨fs, gs, ha, hb, hx, hy, hothers⟩ := h.group
  obtain ⟨g, p', rfl, hgroup⟩ := Path.exists_of_spares hp
  refine ⟨fun name hname => ?_, ?_⟩
  · rw [Value.set, Value.set, Value.get?_modify_entry, Value.get?_modify_entry]
    by_cases hg : g = name
    · rw [if_pos hg, if_pos hg, hg, h.elsewhere name hname]
    · rw [if_neg hg, if_neg hg, h.elsewhere name hname]
  · by_cases hg : g = k.group.name
    · obtain ⟨name, p'', rfl, hname⟩ := hgroup hg
      have hsame : (Value.table fs).get? name = (Value.table gs).get? name := hothers name hname
      rw [Value.set, Value.set, Value.get?_modify_entry, Value.get?_modify_entry, if_pos hg,
        if_pos hg, hg, ha, hb, Option.getD_some, Option.getD_some, Value.modify, Value.modify,
        hsame]
      refine ⟨_, _, rfl, rfl, ?_, ?_, fun name' hname' => ?_⟩
      · rw [Entries.get?_put, if_neg hname]
        exact hx
      · rw [Entries.get?_put, if_neg hname]
        exact hy
      · rw [Entries.get?_put, Entries.get?_put, Value.fields, Value.fields, hothers name' hname']
    · rw [Value.set, Value.set, Value.get?_modify_entry, Value.get?_modify_entry, if_neg hg,
        if_neg hg]
      exact h.group

theorem setAll {entries : List (String × Value)}
    (hentries : ∀ e ∈ entries, (Path.ofKey e.1).spares k = true) (h : DifferAt k x y a b) :
    DifferAt k x y (a.setAll entries) (b.setAll entries) := by
  induction entries generalizing a b with
  | nil => exact h
  | cons e entries ih =>
    obtain ⟨he, hentries⟩ := List.forall_mem_cons.mp hentries
    exact ih hentries (h.set he e.2)

theorem readIn_self (h : DifferAt k x y a b) : k.readIn b = k.coerce k.place y := by
  obtain ⟨fs, gs, -, hb, -, hy, -⟩ := h.group
  have hleaf : b.leaf? k = some y := by
    rw [Value.leaf?, Value.groupAt, hb]
    exact hy
  rw [Key.readIn_of_table hb, hleaf, Key.read]

theorem readIn_other (h : DifferAt k x y a b) {k' : Key} (hne : k' ≠ k) :
    k'.readIn a = k'.readIn b := by
  by_cases hgroup : k'.group = k.group
  · obtain ⟨fs, gs, ha, hb, -, -, hothers⟩ := h.group
    rw [← hgroup] at ha hb
    have hleaf : a.leaf? k' = b.leaf? k' := by
      rw [Value.leaf?, Value.leaf?, Value.groupAt, Value.groupAt, ha, hb]
      exact hothers k'.name fun hname => hne (Key.eq_of_name_eq hgroup hname)
    rw [Key.readIn_of_table ha, Key.readIn_of_table hb, hleaf]
  · exact Key.readIn_congr (h.elsewhere _ fun hname => hgroup (Group.eq_of_name_eq hname))

end DifferAt

/-! ## Variables among others -/

/-- No variable changes a setting of a group that is a table. -/
def Spare (k : Key) (environment : List Variable) : Prop :=
  ∀ v ∈ environment, ∀ key, Variable.key? v.1 = some key → (Path.ofKey key).spares k = true

/-- No variable but its own changes a setting of a group that is a table. -/
def OnlyOwn (k : Key) (environment : List Variable) : Prop :=
  ∀ v ∈ environment, ∀ key, Variable.key? v.1 = some key →
    key = k.fullName ∨ (Path.ofKey key).spares k = true

theorem Spare.onlyOwn {k : Key} {environment : List Variable} (h : Spare k environment) :
    OnlyOwn k environment :=
  fun v hv key hkey => Or.inr (h v hv key hkey)

/-- One variable, whose key leads elsewhere. -/
theorem Spare.singleton {k : Key} {name key : String} (hname : Variable.key? name = some key)
    (hkey : (Path.ofKey key).spares k = true) (text : String) : Spare k [(name, text)] := by
  intro v hv key' hkey'
  rw [List.mem_singleton.mp hv, hname] at hkey'
  rw [← Option.some.inj hkey']
  exact hkey

theorem Path.not_spares_fullName (k : Key) : (ofKey k.fullName).spares k = false := by
  rw [ofKey_fullName]
  cases k <;> rfl

section

variable {before after : List Variable} {name : String} {k : Key}

/-- A variable says the last of its setting if those after it spare the setting. -/
theorem get?_entries_of_own (host : Host) (hname : Variable.key? name = some k.fullName)
    (hafter : Spare k after) (text : String) :
    Entries.get? k.fullName (entries host (before ++ (name, text) :: after)) =
      some (Variable.guess text) := by
  have hnone : (after.reverse.find? fun v => Variable.key? v.1 = some k.fullName) = none := by
    rw [List.find?_eq_none]
    intro v hv hkey
    have hspares := hafter v (List.mem_reverse.mp hv) _ (of_decide_eq_true hkey)
    rw [Path.not_spares_fullName] at hspares
    exact absurd hspares Bool.false_ne_true
  rw [get?_entries, List.reverse_append, List.reverse_cons, List.append_assoc, List.find?_append,
    hnone, Option.none_or]
  simp [hname]

/-- For other keys the text of the variable does not matter. -/
theorem get?_entries_of_ne (host : Host) (hname : Variable.key? name = some k.fullName)
    {key : String} (hkey : key ≠ k.fullName) (text text' : String) :
    Entries.get? key (entries host (before ++ (name, text) :: after)) =
      Entries.get? key (entries host (before ++ (name, text') :: after)) := by
  have hskip : ∀ text, ([(name, text)] : List Variable).find?
      (fun v => Variable.key? v.1 = some key) = none := by
    intro text
    simp [hname, hkey.symm]
  simp only [get?_entries, List.reverse_append, List.reverse_cons, List.append_assoc,
    List.find?_append, hskip]

theorem names_entries_eq (name text text' : String) :
    Entries.names (Variable.entries (before ++ (name, text) :: after)) =
      Entries.names (Variable.entries (before ++ (name, text') :: after)) := by
  refine Entries.names_putAll_congr ?_ rfl
  simp only [Entries.names, List.filterMap_append, List.filterMap_cons, Variable.entry?]
  cases Variable.key? name <;> simp

/-- What a variable sets, in front of and behind what others set. Those behind it spare the
setting, and all are the same for every text of the variable. -/
theorem entries_eq_append (host : Host) (hname : Variable.key? name = some k.fullName)
    (hbefore : OnlyOwn k before) (hafter : Spare k after) : ∃ front back,
      (∀ e ∈ back, (Path.ofKey e.1).spares k = true) ∧ ∀ text,
        entries host (before ++ (name, text) :: after) =
          front ++ (k.fullName, Variable.guess text) :: back := by
  have hget : ∀ key text, Entries.get? key (Variable.entries (before ++ (name, text) :: after)) =
      Entries.get? key (entries host (before ++ (name, text) :: after)) := fun key text =>
    (Entries.get?_inOrder host.variableOrder _ key).symm
  have hmem : k.fullName ∈ Entries.names (Variable.entries (before ++ (name, "") :: after)) :=
    (Entries.mem_names_inOrder host.variableOrder _).mp (mem_names_entries.mpr
      ⟨(name, ""), List.mem_append_right _ List.mem_cons_self, hname⟩)
  obtain ⟨front, back, hback, happend⟩ := Entries.exists_inOrder_eq_append host.variableOrder
    (Variable.nodup_names_entries _) hmem
  refine ⟨front, back, fun e he => ?_, fun text => ?_⟩
  · obtain ⟨hentry, hne⟩ := hback e he
    have hnamed : e.1 ∈ Entries.names (entries host (before ++ (name, "") :: after)) :=
      (Entries.mem_names_inOrder host.variableOrder _).mpr (List.mem_map_of_mem hentry)
    obtain ⟨v, hv, hkey⟩ := mem_names_entries.mp hnamed
    rcases List.mem_append.mp hv with hv | hv
    · exact (hbefore v hv _ hkey).resolve_left hne
    · rcases List.mem_cons.mp hv with rfl | hv
      · exact absurd (Option.some.inj (hkey.symm.trans hname)) hne
      · exact hafter v hv _ hkey
  · refine happend _ _ (names_entries_eq name text "") ?_ fun key hkey => ?_
    · rw [hget, get?_entries_of_own host hname hafter]
    · rw [hget, hget, get?_entries_of_ne host hname hkey]

/-- A variable for a setting overwrites what those in front of it made of the tree. -/
theorem Value.setAll_append_guess (root : Value) (front back : List (String × Value)) (k : Key)
    (text : String) : root.setAll (front ++ (k.fullName, Variable.guess text) :: back) =
      ((root.setAll front).overwrite k (Variable.guess text)).setAll back := by
  rw [← Value.set_ofKey_fullName (Value.merge_guess text), Value.setAll, List.foldl_append]
  rfl

/-- A setting is what its own last variable says, if no other could change it. -/
theorem get_of_load_of_own {file : File} {host : Host} {text : String} {s : Settings}
    (h : load file (before ++ (name, text) :: after) host = .ok s)
    (hname : Variable.key? name = some k.fullName) (hbefore : OnlyOwn k before)
    (hafter : Spare k after) : k.coerce k.place (Variable.guess text) = .ok (s.get k) := by
  obtain ⟨front, back, hback, hentries⟩ := entries_eq_append host hname hbefore hafter
  obtain ⟨tree, -, -, hread⟩ := load_eq_ok_iff.mp h
  have hheld := (DifferAt.overwrite (tree.setAll front) k (Variable.guess text)
    (Variable.guess text)).setAll hback
  rw [← hread k, hentries, Value.setAll_append_guess, hheld.readIn_self]

/-- Of settings that load, one of which a variable gives, this one follows the variable and
all others stay as they are. -/
theorem load_of_variable {file : File} {host : Host} {old new : String} {s s' : Settings}
    (hname : Variable.key? name = some k.fullName) (hbefore : OnlyOwn k before)
    (hafter : Spare k after) (hload : load file (before ++ (name, old) :: after) host = .ok s)
    (hnew : k.coerce k.place (Variable.guess new) = .ok (s'.get k))
    (hothers : ∀ k' ≠ k, s'.get k' = s.get k') :
    load file (before ++ (name, new) :: after) host = .ok s' := by
  obtain ⟨front, back, hback, hentries⟩ := entries_eq_append host hname hbefore hafter
  obtain ⟨tree, htree, hfits, hread⟩ := load_eq_ok_iff.mp hload
  rw [hentries] at hfits hread
  rw [Value.setAll_append_guess] at hread
  have hdiffer := (DifferAt.overwrite (tree.setAll front) k (Variable.guess old)
    (Variable.guess new)).setAll hback
  refine load_eq_ok_iff.mpr ⟨tree, htree, ?_, fun k' => ?_⟩
  · rw [hentries]
    simp only [List.forall_mem_append, List.forall_mem_cons] at hfits ⊢
    exact hfits
  · rw [hentries, Value.setAll_append_guess]
    by_cases hk : k' = k
    · rw [hk, hdiffer.readIn_self, hnew]
    · rw [← hdiffer.readIn_other hk, hread, hothers k' hk]

end

end Settings

end ProxyHeader
