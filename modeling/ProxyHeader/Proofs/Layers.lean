import ProxyHeader.Proofs.SettingsSources

/-!
# Layers of settings

`Layered` says what it means that an environment lies over a file key by key: what a variable
says replaces what the file says of the same setting, and all else is as the file says. Any
loading of settings with variables that name settings is layered over the tree that the host
makes of the file, and over the file as it is written if its names are plain
(`Settings.load_layers`).

They need not be plain. A name in quotes may look like a path, and then stands for the place
that this path leads to, where it can set what the file as it is written does not mention
(`Settings.not_layered_quotedPath`). Then hosts may also make different trees of the file.
-/

namespace ProxyHeader

namespace Settings

/-! ## What matters of a file -/

/-- All groups in a tree are tables. -/
def GroupsAreTables (root : Value) : Prop :=
  ∀ g : Group, ∀ v, root.get? g.name = some v → ∃ fields, v = .table fields

/-- Two trees give the same for all that `said` does not set: for single settings of the groups
that it sets something of, and for the other groups as a whole. -/
structure SameWhereSilent (said : Key → Option Value) (a b : Value) : Prop where
  leaf : ∀ k, saysOf said k.group = true → said k = none → a.leaf? k = b.leaf? k
  group : ∀ g : Group, saysOf said g = false → a.get? g.name = b.get? g.name

/-- What a setting comes to: what is said of it, or else what the tree gives. -/
def effective? (said : Key → Option Value) (root : Value) (k : Key) : Option Value :=
  (said k).or (root.leaf? k)

theorem readIn_of_groupsAreTables {root : Value} (h : GroupsAreTables root) (k : Key) :
    k.readIn root = k.read (root.leaf? k) := by
  cases hgroup : root.get? k.group.name with
  | none => exact Key.readIn_of_missing hgroup
  | some v =>
    obtain ⟨fields, rfl⟩ := h k.group v hgroup
    exact Key.readIn_of_table hgroup

namespace SameWhereSilent

variable {said : Key → Option Value} {a b : Value}

theorem ofTree_eq (host : Host) (h : SameWhereSilent said a b) :
    ofTree host (a.overlay said) = ofTree host (b.overlay said) := by
  refine ofTree_congr host fun k => ?_
  rw [Key.readIn_overlay, Key.readIn_overlay]
  by_cases hsays : saysOf said k.group = true
  · rw [if_pos hsays, if_pos hsays]
    cases hsaid : said k with
    | none => rw [h.leaf k hsays hsaid]
    | some v => rfl
  · rw [if_neg hsays, if_neg hsays]
    exact Key.readIn_congr (h.group k.group (Bool.eq_false_iff.mpr hsays))

theorem of_get?_eq (h : ∀ g : Group, a.get? g.name = b.get? g.name) :
    SameWhereSilent said a b where
  leaf k _ _ := by rw [Value.leaf?, Value.leaf?, Value.groupAt, Value.groupAt, h]
  group g _ := h g

/-- It does not matter what is given for a setting that is set. -/
theorem overwrite {k : Key} (h : said k ≠ none) (root x : Value) :
    SameWhereSilent said root (root.overwrite k x) where
  leaf k' _ hk' := by
    have hne : k ≠ k' := by
      rintro rfl
      exact h hk'
    rw [Value.leaf?_overwrite, if_neg hne]
  group g hg := by
    have hne : k.group ≠ g := by
      rintro rfl
      exact Bool.eq_false_iff.mp hg (saysOf_iff.mpr ⟨k, rfl, h⟩)
    rw [Value.get?_overwrite, if_neg hne]

end SameWhereSilent

/-! ## Layers -/

/-- The outcome of loading settings lies over a tree key by key. -/
structure Layered (host : Host) (said : Key → Option Value) (root : Value)
    (outcome : Except LoadError Settings) : Prop where
  /-- What is said is put over the tree before anything is brought to its type. -/
  overlay : outcome = ofTree host (root.overlay said)
  /-- A setting that is set does not depend on what the tree gives for it. -/
  replaced : ∀ k x, said k ≠ none → outcome = ofTree host ((root.overwrite k x).overlay said)
  /-- Nothing that the tree gives matters but for the settings that are not set, and for the
  groups none of whose settings is. -/
  silent : ∀ root', SameWhereSilent said root root' → outcome = ofTree host (root'.overlay said)
  /-- Each setting is what is said, or else what the tree gives, or else its default. -/
  settings : GroupsAreTables root → ∀ s : Settings,
    outcome = .ok s ↔ ∀ k : Key, k.read (effective? said root k) = .ok (s.get k)
  /-- Settings are refused only for a value that cannot be brought to its type. -/
  refused : GroupsAreTables root → ((∃ e, outcome = .error e) ↔
    ∃ (k : Key) (v : Value), effective? said root k = some v ∧ ∃ e, k.coerce k.place v = .error e)
  /-- Of a tree whose groups are tables only the settings matter. -/
  others : GroupsAreTables root → ∀ root', GroupsAreTables root' →
    (∀ k, effective? said root k = effective? said root' k) →
      outcome = ofTree host (root'.overlay said)

theorem Key.read_eq_error_iff {k : Key} {v? : Option Value} :
    (∃ e, k.read v? = .error e) ↔ ∃ v, v? = some v ∧ ∃ e, k.coerce k.place v = .error e := by
  cases v? with
  | none => simp [Key.read]
  | some v => simp [Key.read]

/-- Each setting of an overlaid tree whose groups are tables. -/
theorem ofTree_overlay_of_groupsAreTables {host : Host} {root : Value}
    (h : GroupsAreTables root) (said : Key → Option Value) :
    ofTree host (root.overlay said) = collect host fun k => k.read (effective? said root k) := by
  rw [ofTree]
  congr 1
  funext k
  rw [Key.readIn_overlay, effective?]
  split
  · rfl
  next hsays =>
    have hsaid : said k = none := by
      by_contra hne
      exact hsays (saysOf_iff.mpr ⟨k, rfl, hne⟩)
    rw [hsaid, Option.none_or, readIn_of_groupsAreTables h]

theorem layered_ofTree (host : Host) (said : Key → Option Value) (root : Value) :
    Layered host said root (ofTree host (root.overlay said)) where
  overlay := rfl
  replaced k x h := (SameWhereSilent.overwrite h root x).ofTree_eq host
  silent _ h := h.ofTree_eq host
  settings h s := by rw [ofTree_overlay_of_groupsAreTables h, collect_eq_ok_iff]
  refused h := by
    rw [ofTree_overlay_of_groupsAreTables h, collect_eq_error_iff]
    exact exists_congr fun k => Key.read_eq_error_iff
  others h root' h' heq := by
    rw [ofTree_overlay_of_groupsAreTables h, ofTree_overlay_of_groupsAreTables h']
    simp only [heq]

/-- Settings from a document and from variables that name settings, on any host. -/
theorem load_layers {text : String} {d : Toml.Document} {environment : List Variable}
    (host : Host) (hparse : Toml.Document.parse? text = some d)
    (henvironment : NamesKeys environment) :
    (∀ root, treeOfText host text = .ok root →
      Layered host (said environment) root (load (.contents text) environment host)) ∧
    (Plain host.room d →
      Layered host (said environment) (asWritten d) (load (.contents text) environment host)) ∧
    (∀ e, treeOfText host text = .error e →
      e = .noRoom ∧ load (.contents text) environment host = .error .noRoom) ∧
    load (.contents text) [] host = parse text host := by
  have hload : load (.contents text) environment host =
      treeOfText host text >>= fun root => ofTree host (root.overlay (said environment)) := by
    rw [load_eq_overlay _ host henvironment, treeOfFile_contents host hparse]
  refine ⟨fun root hroot => ?_, fun hd => ?_, fun e he => ?_, ?_⟩
  · rw [hload, hroot]
    exact layered_ofTree host _ root
  · obtain ⟨root, hroot, hgroups⟩ := exists_treeOfText hparse hd
    have hsame : SameWhereSilent (said environment) root (asWritten d) := .of_get?_eq hgroups
    have houtcome : load (.contents text) environment host =
        ofTree host ((asWritten d).overlay (said environment)) := by
      rw [hload, hroot, ← hsame.ofTree_eq host]
      rfl
    rw [houtcome]
    exact layered_ofTree host _ (asWritten d)
  · have hroom : e = .noRoom := by
      rw [treeOfText_of_parse? host hparse, gather] at he
      split at he
      · exact absurd he (by simp)
      · exact (Except.error.inj he).symm
    rw [hload, he, hroom]
    exact ⟨rfl, rfl⟩
  · have hnone : NamesKeys [] := fun v hv => absurd hv List.not_mem_nil
    rw [load_eq_overlay _ host hnone, treeOfFile_contents host hparse]
    rfl

/-- Without a file each setting is what a variable says of it, or else its default. -/
theorem load_notGiven_eq_ok_iff {environment : List Variable} {s : Settings} (host : Host)
    (h : NamesKeys environment) : load .notGiven environment host = .ok s ↔
      ∀ k : Key, k.read (said environment k) = .ok (s.get k) := by
  have htables : GroupsAreTables (.table []) := fun g v hv => by simp [Value.get?, Value.fields,
    Entries.get?] at hv
  have hload : load .notGiven environment host =
      ofTree host ((Value.table []).overlay (said environment)) :=
    load_eq_overlay .notGiven host h
  rw [hload, ofTree_overlay_of_groupsAreTables htables, collect_eq_ok_iff]
  refine forall_congr' fun k => ?_
  have hnone : (Value.table []).leaf? k = none := rfl
  rw [effective?, hnone, Option.or_none]

/-- A document with a value of the wrong type, and with a name that nothing asks for. -/
def mixedText : String :=
  "input.timeout = \"soon\"\n[log]\nlevel = 3\nother = []\n"

/-- Variables for two settings, and one that is not looked at. -/
def mixedEnvironment : List Variable :=
  [("PP2_INPUT__TIMEOUT", "30"), ("HOME", "/"), ("pp2_output__format", "json")]

theorem namesKeys_mixedEnvironment : NamesKeys mixedEnvironment := by
  have htimeout : Variable.key? "PP2_INPUT__TIMEOUT" = some Key.timeout.fullName := by
    decide +kernel
  have hhome : Variable.key? "HOME" = none := by decide +kernel
  have hformat : Variable.key? "pp2_output__format" = some Key.format.fullName := by
    decide +kernel
  intro v hv key hkey
  simp only [mixedEnvironment, List.mem_cons, List.not_mem_nil, or_false] at hv
  obtain rfl | rfl | rfl := hv
  · exact ⟨.timeout, (Option.some.inj (htimeout.symm.trans hkey)).symm⟩
  · exact absurd (hhome.symm.trans hkey) (Option.some_ne_none key).symm
  · exact ⟨.format, (Option.some.inj (hformat.symm.trans hkey)).symm⟩

/-- A host that takes everything the other way round. -/
def reversing : Host :=
  ⟨⟨List.reverse, List.reverse_perm⟩, ⟨List.reverse, List.reverse_perm⟩, Key.all.reverse, 8⟩

/-- The wrong value does no harm, as a variable replaces it. -/
theorem load_layers_mixed : ∃ d, Toml.Document.parse? mixedText = some d ∧ Plain 8 d ∧
    Layered reversing (said mixedEnvironment) (asWritten d)
      (load (.contents mixedText) mixedEnvironment reversing) ∧
    load (.contents mixedText) mixedEnvironment reversing = .ok ⟨"0.0.0.0", 30, "3", .json⟩ := by
  have hparse : ∃ d ∈ Toml.Document.parse? mixedText, Plain 8 d := by decide +kernel
  obtain ⟨d, hd, hplain⟩ := hparse
  have hlayers := load_layers reversing hd namesKeys_mixedEnvironment
  exact ⟨d, hd, hplain, hlayers.2.1 hplain, eq_ok_of_toOption (by decide +kernel)⟩

/-- The form of report, given in its group and by a name that looks like a path to it. -/
def saidTwice : String :=
  "\"output.format\" = \"json\"\n[output]\nformat = \"text\"\n"

example : (load (.contents saidTwice) []).toOption = some ⟨"0.0.0.0", 0, "warn", .text⟩ ∧
    (load (.contents saidTwice) [] reversing).toOption = some ⟨"0.0.0.0", 0, "warn", .json⟩ := by
  decide +kernel

/-- A document without groups, whose only name looks like a path into one. -/
def quotedPath : String :=
  "\"output[ 0 ]\" = \"json\"\n"

/-- A name that looks like a path into a group sets what is there, though the document as it is
written gives nothing for any setting. -/
theorem not_layered_quotedPath : ∃ d, Toml.Document.parse? quotedPath = some d ∧
    (∀ g : Group, (asWritten d).get? g.name = none) ∧
    load (.contents quotedPath) [] = .ok { default with format := .json } ∧
    ¬ Layered .usual (said []) (asWritten d) (load (.contents quotedPath) []) := by
  have hparse : ∃ d ∈ Toml.Document.parse? quotedPath,
      ∀ g ∈ Group.all, ((asWritten d).get? g.name).isNone = true := by
    decide +kernel
  obtain ⟨d, hd, hgroups⟩ := hparse
  have hnone : ∀ g : Group, (asWritten d).get? g.name = none := fun g =>
    Option.isNone_iff_eq_none.mp (hgroups g g.mem_all)
  have hok : load (.contents quotedPath) [] = .ok { default with format := .json } :=
    eq_ok_of_toOption (by decide +kernel)
  refine ⟨d, hd, hnone, hok, fun hlayered => ?_⟩
  have htables : GroupsAreTables (asWritten d) := by
    intro g v hv
    rw [hnone g] at hv
    exact absurd hv (Option.some_ne_none v).symm
  have hformat := (hlayered.settings htables _).mp hok .format
  have hleaf : effective? (said []) (asWritten d) .format = none := by
    rw [effective?, Value.leaf?, Value.groupAt, hnone]
    rfl
  rw [hleaf] at hformat
  exact absurd (Except.ok.inj hformat) (by decide)

end Settings

end ProxyHeader
