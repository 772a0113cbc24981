import ProxyHeader.Proofs.SettingsTree
import ProxyHeader.Proofs.TomlNames

/-!
# Sources of settings

Variables that stand for settings overwrite the tree of the file at the keys of these
settings, and change nothing else (`load_eq_overlay`). A variable that is set twice counts as
it was set last; apart from this their order does not matter. Of any settings that load, one is
as the file says if there is no variable of its group (`get_of_load_of_silentOn`).

A document is entered in the tree name by name, and its names may be paths of their own. The
names of a `Plain` document lead into a group only where they are the name of the group, and
its groups then stand in the tree as they are written, in whatever order the names are entered
(`exists_treeOfText`).
-/

namespace ProxyHeader

/-- A text without a byte order mark in front is left as it is. -/
theorem Scan.afterMark_eq_or (cs : List Char) :
    afterMark cs = cs ∨ ∃ cs', cs = '\uFEFF' :: cs' := by
  unfold afterMark
  split
  next cs' => exact Or.inr ⟨cs', rfl⟩
  next => exact Or.inl rfl

namespace Settings

/-! ## Paths of keys -/

/-- The path of a key begins at an entry of the root. -/
theorem Path.exists_ofKey (key : String) : ∃ name path, ofKey key = .entry name :: path := by
  cases hparse : parse? key with
  | none => exact ⟨key, [], by rw [ofKey, hparse, Option.getD_none]⟩
  | some p =>
    have hkey : ofKey key = p := by rw [ofKey, hparse, Option.getD_some]
    obtain ⟨⟨step, cs⟩, hfirst, h⟩ := Option.bind_eq_some_iff.mp hparse
    obtain ⟨path, -, h⟩ := Option.bind_eq_some_iff.mp h
    obtain rfl := Option.some.inj h
    rw [hkey]
    unfold name? at hfirst
    split at hfirst
    · exact absurd hfirst (Option.some_ne_none _).symm
    · obtain ⟨rfl, -⟩ := Prod.mk.inj (Option.some.inj hfirst)
      exact ⟨_, _, rfl⟩

/-- Whether a key stands for a group or a place in it. -/
def Reaches (g : Group) (key : String) : Prop :=
  (Path.ofKey key).head? = some (.entry g.name)

instance (g : Group) (key : String) : Decidable (Reaches g key) :=
  inferInstanceAs (Decidable (_ = _))

theorem Path.ofKey_fullName (k : Key) :
    ofKey k.fullName = [.entry k.group.name, .entry k.name] := by
  cases k <;> rfl

theorem Path.ofKey_name (g : Group) : ofKey g.name = [.entry g.name] := by
  cases g <;> rfl

/-- Different settings have different names. -/
theorem Key.fullName_injective {k k' : Key} (h : k.fullName = k'.fullName) : k = k' := by
  have hpath := congrArg Path.ofKey h
  simp only [Path.ofKey_fullName, List.cons.injEq, Step.entry.injEq] at hpath
  exact Key.eq_of_name_eq (Group.eq_of_name_eq hpath.1) hpath.2.1

namespace Value

/-- Setting a value changes no group that its path does not lead to. -/
theorem get?_set_of_not_reaches {g : Group} {key : String} (h : ¬ Reaches g key)
    (root v : Value) : (root.set (Path.ofKey key) v).get? g.name = root.get? g.name := by
  obtain ⟨name, path, hpath⟩ := Path.exists_ofKey key
  have hname : name ≠ g.name := by
    rintro rfl
    exact h (by rw [Reaches, hpath, List.head?_cons])
  rw [hpath, set, modify, get?, fields, Entries.get?_put, if_neg hname]
  rfl

theorem get?_setAll_of_not_reaches {g : Group} : ∀ {entries : List (String × Value)},
    (∀ e ∈ entries, ¬ Reaches g e.1) → ∀ root : Value,
      (root.setAll entries).get? g.name = root.get? g.name
  | [], _, _ => rfl
  | (key, v) :: entries, h, root => by
    obtain ⟨hkey, hentries⟩ := List.forall_mem_cons.mp h
    have hstep : root.setAll ((key, v) :: entries) =
        (root.set (Path.ofKey key) v).setAll entries := rfl
    rw [hstep, get?_setAll_of_not_reaches hentries, get?_set_of_not_reaches hkey]

/-- Setting the value at the path of a setting overwrites that setting. -/
theorem set_ofKey_fullName {v : Value} (hv : ∀ current, merge v current = v) (root : Value)
    (k : Key) : root.set (Path.ofKey k.fullName) v = root.overwrite k v := by
  rw [Path.ofKey_fullName, set, modify, modify, modify, hv]
  rfl

end Value

/-! ## Trees of a source -/

theorem gather_of_fits {host : Host} {entries : List (String × Value)}
    (h : ∀ e ∈ entries, (Path.ofKey e.1).fits host.room = true) (tree : Value) :
    gather host tree entries = .ok (tree.setAll entries) :=
  if_pos (List.all_eq_true.mpr h)

theorem gather_eq_ok_iff {host : Host} {tree root : Value} {entries : List (String × Value)} :
    gather host tree entries = .ok root ↔
      (∀ e ∈ entries, (Path.ofKey e.1).fits host.room = true) ∧ tree.setAll entries = root := by
  rw [gather, ← List.all_eq_true]
  split
  next hfits => simp [hfits]
  next hfits => simp [hfits]

/-! ## Variables -/

/-- The text of a variable is never taken for a table, and so replaces what it is set over. -/
theorem Value.merge_guess (s : String) (current : Value) :
    merge (Variable.guess s) current = Variable.guess s := by
  unfold Variable.guess
  dsimp only
  repeat' split
  all_goals rfl

/-- The setting of a given full name. -/
def Key.ofFullName? (name : String) : Option Key :=
  all.find? (·.fullName = name)

theorem Key.ofFullName?_eq_some_iff {name : String} {k : Key} :
    ofFullName? name = some k ↔ name = k.fullName := by
  constructor
  · intro h
    have hfound := List.find?_some (p := fun k : Key => decide (k.fullName = name)) h
    exact (of_decide_eq_true hfound).symm
  · rintro rfl
    cases k <;> rfl

/-- What a setting is set to by the last variable that stands for it. -/
def said (environment : List Variable) (k : Key) : Option Value :=
  (environment.reverse.find? fun v => Variable.key? v.1 = some k.fullName).map fun v =>
    Variable.guess v.2

/-- All variables that are looked at stand for settings. -/
def NamesKeys (environment : List Variable) : Prop :=
  ∀ v ∈ environment, ∀ key, Variable.key? v.1 = some key → ∃ k : Key, key = k.fullName

/-- The keys of variables are the names of what they set. -/
theorem mem_names_entries {host : Host} {environment : List Variable} {key : String} :
    key ∈ Entries.names (entries host environment) ↔
      ∃ v ∈ environment, Variable.key? v.1 = some key := by
  have hnames : key ∈ Entries.names (environment.filterMap Variable.entry?) ↔
      ∃ v ∈ environment, Variable.key? v.1 = some key := by
    simp only [Entries.names, List.mem_map, List.mem_filterMap, Variable.entry?]
    constructor
    · rintro ⟨_, ⟨v, hv, he⟩, rfl⟩
      obtain ⟨key, hkey, rfl⟩ := Option.map_eq_some_iff.mp he
      exact ⟨v, hv, hkey⟩
    · rintro ⟨v, hv, hkey⟩
      exact ⟨(key, Variable.guess v.2), ⟨v, hv, by rw [hkey, Option.map_some]⟩, rfl⟩
  rw [entries, Entries.mem_names_inOrder, Variable.entries, Entries.mem_names_putAll, hnames]
  exact or_iff_left List.not_mem_nil

/-- What holds of the keys of all variables holds of all that they set. -/
theorem forall_mem_entries {host : Host} {environment : List Variable} {p : String → Prop}
    (h : ∀ v ∈ environment, ∀ key, Variable.key? v.1 = some key → p key) :
    ∀ e ∈ entries host environment, p e.1 := by
  intro e he
  obtain ⟨v, hv, hkey⟩ := mem_names_entries.mp (List.mem_map_of_mem he)
  exact h v hv e.1 hkey

/-- In whatever order variables are entered, each sets what the last of its key says. -/
theorem get?_entries (host : Host) (environment : List Variable) (key : String) :
    Entries.get? key (entries host environment) =
      (environment.reverse.find? fun v => Variable.key? v.1 = some key).map fun v =>
        Variable.guess v.2 := by
  have hfind : ∀ vs : List Variable, Entries.get? key (vs.filterMap Variable.entry?) =
      (vs.find? fun v => Variable.key? v.1 = some key).map fun v => Variable.guess v.2 := by
    intro vs
    induction vs with
    | nil => rfl
    | cons v vs ih =>
      rw [List.filterMap_cons, List.find?_cons, Variable.entry?]
      cases hkey : Variable.key? v.1 with
      | none => simpa using ih
      | some key' =>
        by_cases hk : key' = key
        · simp [Entries.get?, hk]
        · simp [Entries.get?, hk, ih]
  rw [entries, Entries.get?_inOrder, Variable.entries, Entries.get?_putAll,
    ← List.filterMap_reverse, hfind, Entries.get?, Option.or_none]

theorem Variable.nodup_names_entries (environment : List Variable) :
    (Entries.names (entries environment)).Nodup :=
  Entries.nodup_names_putAll _ List.nodup_nil

theorem nodup_names_entries (host : Host) (environment : List Variable) :
    (Entries.names (entries host environment)).Nodup :=
  Entries.nodup_names_inOrder _ _ (Variable.nodup_names_entries environment)

/-- What a table of variables sets was guessed from the text of one. -/
theorem exists_guess_of_mem_entries {host : Host} {environment : List Variable}
    {e : String × Value} (he : e ∈ entries host environment) :
    ∃ text, e.2 = Variable.guess text := by
  have hget := Entries.get?_of_mem (nodup_names_entries host environment) he
  rw [get?_entries] at hget
  obtain ⟨v, -, hv⟩ := Option.map_eq_some_iff.mp hget
  exact ⟨v.2, hv.symm⟩

/-! ## Settings that are overwritten -/

/-- The entries that are settings, by their keys. -/
def assignments (es : List (String × Value)) : Assignments :=
  es.filterMap fun e => (Key.ofFullName? e.1).map (·, e.2)

theorem lookup_assignments (k : Key) : ∀ es : List (String × Value),
    (assignments es).lookup k = Entries.get? k.fullName es
  | [] => rfl
  | (name, v) :: es => by
    have ih := lookup_assignments k es
    rw [assignments, List.filterMap_cons, Entries.get?]
    cases hname : Key.ofFullName? name with
    | none =>
      have hne : name ≠ k.fullName := fun h => by
        rw [Key.ofFullName?_eq_some_iff.mpr h] at hname
        exact absurd hname (Option.some_ne_none _)
      rw [if_neg hne]
      exact ih
    | some k' =>
      obtain rfl := Key.ofFullName?_eq_some_iff.mp hname
      by_cases hk : k = k'
      · simp [hk]
      · have hne : k'.fullName ≠ k.fullName := fun h => hk (Key.fullName_injective h).symm
        rw [if_neg hne, Option.map_some, List.lookup_cons, beq_false_of_ne hk]
        exact ih

/-- Of entries with different names none is last but the one that there is. -/
theorem last?_assignments {es : List (String × Value)} (h : (Entries.names es).Nodup) (k : Key) :
    (assignments es).last? k = Entries.get? k.fullName es := by
  have hreverse : (assignments es).reverse = assignments es.reverse :=
    List.filterMap_reverse.symm
  rw [Assignments.last?, hreverse, lookup_assignments, Entries.get?_reverse _ h]

/-- Entries that are settings overwrite what was there. -/
theorem setAll_eq_overwriteAll : ∀ {es : List (String × Value)},
    (∀ e ∈ es, ∃ k : Key, e.1 = k.fullName) →
    (∀ e ∈ es, ∀ current, Value.merge e.2 current = e.2) → ∀ tree : Value,
      tree.setAll es = tree.overwriteAll (assignments es)
  | [], _, _, _ => rfl
  | (name, v) :: es, hkeys, hmerge, tree => by
    obtain ⟨⟨k, rfl⟩, heskeys⟩ := List.forall_mem_cons.mp hkeys
    obtain ⟨hv, hesmerge⟩ := List.forall_mem_cons.mp hmerge
    have hstep : tree.setAll ((k.fullName, v) :: es) =
        (tree.set (Path.ofKey k.fullName) v).setAll es := rfl
    have hassign : assignments ((k.fullName, v) :: es) = (k, v) :: assignments es := by
      rw [assignments, List.filterMap_cons, Key.ofFullName?_eq_some_iff.mpr rfl]
      rfl
    rw [hstep, hassign, Value.set_ofKey_fullName hv, setAll_eq_overwriteAll heskeys hesmerge]
    rfl

/-- Variables that name settings only overwrite what the file says of these settings. -/
theorem load_eq_overlay (file : File) {environment : List Variable} (host : Host)
    (h : NamesKeys environment) : load file environment host =
      treeOfFile host file >>= fun tree => ofTree host (tree.overlay (said environment)) := by
  have hkeys : ∀ e ∈ entries host environment, ∃ k : Key, e.1 = k.fullName :=
    forall_mem_entries (p := fun key => ∃ k : Key, key = k.fullName) h
  have hfits : ∀ e ∈ entries host environment, (Path.ofKey e.1).fits host.room = true := by
    intro e he
    obtain ⟨k, hk⟩ := hkeys e he
    rw [hk, Path.ofKey_fullName]
    rfl
  have hmerge : ∀ e ∈ entries host environment, ∀ current, Value.merge e.2 current = e.2 := by
    intro e he current
    obtain ⟨text, htext⟩ := exists_guess_of_mem_entries he
    rw [htext, Value.merge_guess]
  have hsaid : (assignments (entries host environment)).last? = said environment := funext fun k =>
    (last?_assignments (nodup_names_entries host environment) k).trans (get?_entries host _ _)
  rw [load]
  cases treeOfFile host file with
  | error e => rfl
  | ok tree =>
    show gather host tree _ >>= ofTree host = ofTree host (tree.overlay (said environment))
    rw [gather_of_fits hfits, setAll_eq_overwriteAll hkeys hmerge, ← hsaid,
      ← ofTree_overwriteAll]
    rfl

/-! ## Settings that load -/

/-- Settings load if there is room for all lists that variables reach into and every setting
can be read in the tree that all sources are gathered in. -/
theorem load_eq_ok_iff {file : File} {environment : List Variable} {host : Host} {s : Settings} :
    load file environment host = .ok s ↔ ∃ tree, treeOfFile host file = .ok tree ∧
      (∀ e ∈ entries host environment, (Path.ofKey e.1).fits host.room = true) ∧
      ∀ k : Key, k.readIn (tree.setAll (entries host environment)) = .ok (s.get k) := by
  constructor
  · intro h
    obtain ⟨tree, htree, h⟩ := exists_of_bind_eq_ok h
    obtain ⟨root, hroot, h⟩ := exists_of_bind_eq_ok h
    obtain ⟨hfits, rfl⟩ := gather_eq_ok_iff.mp hroot
    exact ⟨tree, htree, hfits, collect_eq_ok_iff.mp h⟩
  · rintro ⟨tree, htree, hfits, hread⟩
    rw [load, htree]
    show gather host tree _ >>= ofTree host = .ok s
    rw [gather_of_fits hfits]
    exact collect_eq_ok_iff.mpr hread

/-- No variable leads into a group. -/
def SilentOn (g : Group) (environment : List Variable) : Prop :=
  ∀ v ∈ environment, ∀ key, Variable.key? v.1 = some key → ¬ Reaches g key

/-- Where no variable leads into its group, a setting is as the file gives it. -/
theorem get_of_load_of_silentOn {file : File} {environment : List Variable} {host : Host}
    {s : Settings} {tree : Value} {k : Key} (h : load file environment host = .ok s)
    (hsilent : SilentOn k.group environment) (htree : treeOfFile host file = .ok tree) :
    k.readIn tree = .ok (s.get k) := by
  obtain ⟨tree', htree', -, hread⟩ := load_eq_ok_iff.mp h
  obtain rfl := Except.ok.inj (htree.symm.trans htree')
  have hsilent' : ∀ e ∈ entries host environment, ¬ Reaches k.group e.1 :=
    forall_mem_entries (p := fun key => ¬ Reaches k.group key) hsilent
  rw [← hread k]
  exact Key.readIn_congr (Value.get?_setAll_of_not_reaches hsilent' tree).symm

/-- The form of report that a variable gives is the one that its text names. -/
theorem ofName?_of_readFormat_guess {place : Place} {value : String} {format : Report.Format}
    (h : readFormat place (Variable.guess value) = .ok format) :
    Report.Format.ofName? value = some format := by
  unfold Variable.guess at h
  dsimp only at h
  split at h
  · simp [readFormat] at h
  · split at h
    · simp [readFormat] at h
    · split at h
      · simp [readFormat] at h
      · simp only [readFormat] at h
        split at h
        next hname =>
          rw [hname, Except.ok.inj h]
        next => simp at h

/-! ## Documents -/

namespace Value

mutual

/-- Where nothing was before, a value is entered as it is. -/
theorem merge_ofToml_nil : ∀ {v : Toml.Value}, v.Distinct → merge (ofToml v) nil = ofToml v
  | .table fields, h => by
    rw [ofToml, merge]
    exact mergeFields_fieldsOfToml [] h fun _ _ => List.not_mem_nil
  | .text _, _ | .int _, _ | .float _, _ | .bool _, _ | .moment _, _ | .array _, _ => rfl

theorem mergeFields_fieldsOfToml : ∀ {fields : List (String × Toml.Value)}
    (before : List (String × Value)), Toml.FieldsDistinct fields →
      (∀ k ∈ Entries.names fields, k ∉ Entries.names before) →
      mergeFields (fieldsOfToml fields) (table before) = table (before ++ fieldsOfToml fields)
  | [], before, _, _ => by rw [fieldsOfToml, mergeFields, List.append_nil]
  | (k, v) :: fields, before, ⟨hk, hv, hfields⟩, hbefore => by
    -- The entries before are from the same table, so that the name is new to them.
    have hnew : k ∉ Entries.names before := hbefore k List.mem_cons_self
    have hentry : modify (merge (ofToml v)) [.entry k] (table before) =
        table (before ++ [(k, ofToml v)]) := by
      rw [modify, modify, get?, Value.fields, Entries.get?_eq_none hnew, Option.getD_none,
        merge_ofToml_nil hv, Entries.put_eq_append _ hnew]
    rw [fieldsOfToml, mergeFields, hentry, mergeFields_fieldsOfToml _ hfields, List.append_assoc]
    · rfl
    · intro k' hk'
      rw [Entries.names, List.map_append, List.mem_append, not_or]
      refine ⟨hbefore k' (List.mem_cons_of_mem _ hk'), fun hmem => ?_⟩
      obtain rfl := List.mem_singleton.mp hmem
      exact hk hk'

end

end Value

/-- A document as it is written. -/
def asWritten (d : Toml.Document) : Value :=
  .table (Value.fieldsOfToml d)

/-- The names of a document that lead into a group are names of groups, and lists of `room`
elements are long enough for those that lead elsewhere. -/
structure Plain (room : Nat) (d : Toml.Document) : Prop where
  fits : ∀ e ∈ d, (Path.ofKey e.1).fits room = true
  own : ∀ e ∈ d, ∀ g : Group, Reaches g e.1 → e.1 = g.name

instance (room : Nat) (d : Toml.Document) : Decidable (Plain room d) :=
  decidable_of_iff ((∀ e ∈ d, (Path.ofKey e.1).fits room = true) ∧
      ∀ e ∈ d, ∀ g ∈ Group.all, Reaches g e.1 → e.1 = g.name)
    ⟨fun h => ⟨h.1, fun e he g => h.2 e he g g.mem_all⟩,
      fun h => ⟨h.fits, fun e he g _ => h.own e he g⟩⟩

/-- If only the name of a group leads into it, then the group holds what is entered by this
name, whatever else is entered before and after. -/
theorem get?_setAll_of_own {g : Group} : ∀ {es : List (String × Value)} {root : Value},
    (Entries.names es).Nodup → (∀ e ∈ es, Reaches g e.1 → e.1 = g.name) →
    (∀ e ∈ es, Value.merge e.2 .nil = e.2) → root.get? g.name = none →
      (root.setAll es).get? g.name = Entries.get? g.name es
  | [], root, _, _, _, hroot => hroot
  | (key, v) :: es, root, hnodup, hown, hmerge, hroot => by
    obtain ⟨hkey, hes⟩ := List.nodup_cons.mp hnodup
    obtain ⟨hkeyown, hesown⟩ := List.forall_mem_cons.mp hown
    obtain ⟨hv, hesmerge⟩ := List.forall_mem_cons.mp hmerge
    have hstep : root.setAll ((key, v) :: es) =
        (root.set (Path.ofKey key) v).setAll es := rfl
    rw [hstep, Entries.get?]
    by_cases hreach : Reaches g key
    · obtain rfl := hkeyown hreach
      -- A later name that leads into the group would be its name too, and names are distinct.
      have hrest : ∀ e ∈ es, ¬ Reaches g e.1 := by
        intro e he h
        have hmem : e.1 ∈ Entries.names es := List.mem_map_of_mem (f := Prod.fst) he
        rw [hesown e he h] at hmem
        exact hkey hmem
      have hset : root.set (Path.ofKey g.name) v = .table (Entries.put g.name v root.fields) := by
        rw [Path.ofKey_name, Value.set, Value.modify, Value.modify, hroot, Option.getD_none, hv]
      rw [Value.get?_setAll_of_not_reaches hrest, hset, Value.get?, Value.fields,
        Entries.get?_put, if_pos rfl, if_pos rfl]
    · have hname : key ≠ g.name := by
        rintro rfl
        exact hreach (by rw [Reaches, Path.ofKey_name, List.head?_cons])
      rw [if_neg hname]
      exact get?_setAll_of_own hes hesown hesmerge
        ((Value.get?_set_of_not_reaches hreach root _).trans hroot)

theorem names_fieldsOfToml : ∀ d : Toml.Document,
    Entries.names (Value.fieldsOfToml d) = Entries.names d
  | [] => by rw [Value.fieldsOfToml]; rfl
  | (k, v) :: d => by
    rw [Value.fieldsOfToml]
    exact congrArg (k :: ·) (names_fieldsOfToml d)

theorem merge_of_mem_fieldsOfToml : ∀ {d : Toml.Document}, Toml.FieldsDistinct d →
    ∀ e ∈ Value.fieldsOfToml d, Value.merge e.2 .nil = e.2
  | [], _, e, he => by
    rw [Value.fieldsOfToml] at he
    exact absurd he List.not_mem_nil
  | (k, v) :: d, ⟨_, hv, hd⟩, e, he => by
    rw [Value.fieldsOfToml] at he
    rcases List.mem_cons.mp he with rfl | he
    · exact Value.merge_ofToml_nil hv
    · exact merge_of_mem_fieldsOfToml hd e he

/-- The tree of a document. -/
theorem treeOfText_of_parse? (host : Host) {text : String} {d : Toml.Document}
    (h : Toml.Document.parse? text = some d) : treeOfText host text =
      gather host (.table []) (Entries.inOrder host.fileOrder (Value.fieldsOfToml d)) := by
  rw [treeOfText, h]

/-- In whatever order its names are entered, the tree of a plain document has the groups that
are written. -/
theorem exists_treeOfText {host : Host} {text : String} {d : Toml.Document}
    (h : Toml.Document.parse? text = some d) (hd : Plain host.room d) :
    ∃ tree, treeOfText host text = .ok tree ∧
      ∀ g : Group, tree.get? g.name = (asWritten d).get? g.name := by
  have hdistinct := Toml.Document.distinct_of_parse? h
  have hnodup : (Entries.names (Value.fieldsOfToml d)).Nodup := by
    rw [names_fieldsOfToml]
    exact hdistinct.nodup_names
  -- Whatever holds of all names, or of all entries, does so in any order.
  have hnames : ∀ {p : String → Prop}, (∀ e ∈ d, p e.1) →
      ∀ e ∈ Entries.inOrder host.fileOrder (Value.fieldsOfToml d), p e.1 := by
    intro p hp e he
    have hmem := (Entries.mem_names_inOrder _ _).mp (List.mem_map_of_mem (f := Prod.fst) he)
    rw [names_fieldsOfToml] at hmem
    obtain ⟨e', he', heq⟩ := List.mem_map.mp hmem
    exact heq ▸ hp e' he'
  have hfits : ∀ e ∈ Entries.inOrder host.fileOrder (Value.fieldsOfToml d),
      (Path.ofKey e.1).fits host.room = true :=
    hnames (p := fun key => (Path.ofKey key).fits host.room = true) hd.fits
  refine ⟨_, by rw [treeOfText_of_parse? host h, gather_of_fits hfits], fun g => ?_⟩
  rw [get?_setAll_of_own (Entries.nodup_names_inOrder _ _ hnodup)
    (hnames (p := fun key => Reaches g key → key = g.name) fun e he => hd.own e he g)
    (fun e he => merge_of_mem_fieldsOfToml hdistinct e (Entries.mem_of_mem_inOrder he)) rfl,
    Entries.get?_inOrder]
  rfl

/-! ## Files -/

/-- No line begins with a byte order mark. -/
theorem linesUpTo_mark (limit : Nat) (cs : List Char) :
    Toml.linesUpTo limit ('\uFEFF' :: cs) = none := by
  cases limit <;> rfl

/-- A file that holds a document is read as the document. -/
theorem treeOfFile_contents (host : Host) {text : String} {d : Toml.Document}
    (h : Toml.Document.parse? text = some d) :
    treeOfFile host (.contents text) = treeOfText host text := by
  have hmark : Scan.afterMark (Scan.afterMark text.toList) = Scan.afterMark text.toList := by
    rcases Scan.afterMark_eq_or (Scan.afterMark text.toList) with heq | ⟨cs, heq⟩
    · exact heq
    · simp [Toml.Document.parse?, heq, linesUpTo_mark] at h
  have hparse : Toml.Document.parse? (String.ofList (Scan.afterMark text.toList)) =
      Toml.Document.parse? text := by
    simp only [Toml.Document.parse?, String.toList_ofList, hmark]
  rw [treeOfFile, treeOfText, treeOfText, hparse]

end Settings

end ProxyHeader
