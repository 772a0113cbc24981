import Mathlib.Tactic.Common
import ProxyHeader.LogFilter

/-!
# Torn log filters

A place of a text is the number of bytes in front of one of its characters, or of all of them.
The reader of a directive goes from place to place of the text without white space around it,
and cuts the text with white space where these would be. So nothing is torn if they are places of
that text as well (`LogFilter.readDirective_ne_torn`).

They are if the text has no white space in front, or no character of more than one byte. So
setting up a filter has to stop only where one of its directives has both
(`LogFilter.exists_space_of_tears`).
-/

namespace ProxyHeader

namespace LogFilter

/-! ## Places -/

/-- How many bytes a text takes. -/
def byteLength : List Char → Nat
  | [] => 0
  | c :: cs => c.utf8Size + byteLength cs

/-- A place is where a front part of a text ends. -/
def IsPlace (text : List Char) (n : Nat) : Prop :=
  ∃ front back, text = front ++ back ∧ n = byteLength front

theorem afterBytes?_append : ∀ front back : List Char,
    afterBytes? (byteLength front) (front ++ back) = some back
  | [], back => by cases back <;> rfl
  | c :: front, back => by
    rw [byteLength, List.cons_append, afterBytes?_cons, afterBytes?_append]

theorem IsPlace.isSome {text : List Char} {n : Nat} (h : IsPlace text n) :
    ∃ back, afterBytes? n text = some back := by
  obtain ⟨front, back, rfl, rfl⟩ := h
  exact ⟨back, afterBytes?_append front back⟩

theorem IsPlace.zero (text : List Char) : IsPlace text 0 :=
  ⟨[], text, rfl, rfl⟩

/-- Between two places a text can be cut. -/
theorem cut_of_isPlace {text : List Char} {m n : Nat} (hm : IsPlace text m) (hn : IsPlace text n) :
    ∃ part, cut text m n = .ok part := by
  obtain ⟨front, hfront⟩ := hm.isSome
  obtain ⟨back, hback⟩ := hn.isSome
  exact ⟨_, by rw [cut, hfront, hback]⟩

/-! ## Stages -/

/-- The open part of a stage begins at a place of the text. -/
def Stage.Begins (text : List Char) : Stage → Prop
  | .span begins | .field begins | .level begins => IsPlace text begins
  | .start | .word | .fields | .spanned => True

/-- What was read without a tear, if anything was, begins at a place. -/
def Untorn (text : List Char) : Except Flaw Stage → Prop
  | .ok s => s.Begins text
  | .error flaw => flaw ≠ .torn

section

variable {isPattern : String → Bool} {text : List Char}

/-- One character keeps a reader at places: where a part begins behind it, the character is one
of a single byte. -/
theorem Stage.untorn_step {place : Nat} {c : Char} {s : Stage} (hs : s.Begins text)
    (hplace : IsPlace text place) (hnext : IsPlace text (place + c.utf8Size)) :
    Untorn text (s.step isPattern text place c) := by
  have hsingle : ∀ c', c = c' → c'.utf8Size = 1 → IsPlace text (place + 1) := by
    rintro _ rfl hc
    exact hc ▸ hnext
  cases s with
  | start =>
    rw [step]
    split
    next hc => exact hsingle _ hc rfl
    next =>
      split
      next => trivial
      next => exact nofun
  | word =>
    obtain ⟨part, hcut⟩ := cut_of_isPlace (IsPlace.zero text) hplace
    rw [step, hcut]
    split
    next hc => exact hsingle _ hc rfl
    next =>
      split
      next hc => exact hsingle _ hc rfl
      next => trivial
  | span begins =>
    obtain ⟨part, hcut⟩ := cut_of_isPlace hs hplace
    rw [step, hcut]
    split
    next => trivial
    next =>
      split
      next hc => exact hsingle _ hc rfl
      next => exact hs
  | field begins =>
    obtain ⟨part, hcut⟩ := cut_of_isPlace hs hplace
    rw [step, hcut]
    split
    next =>
      show Untorn text (if isField isPattern part then .ok .fields else .error .refused)
      split
      next => trivial
      next => exact nofun
    next => exact hs
  | fields =>
    rw [step]
    split
    next => trivial
    next => exact nofun
  | spanned =>
    rw [step]
    split
    next hc => exact hsingle _ hc rfl
    next => exact nofun
  | level begins => exact hs

theorem Stage.finish_ne_torn {s : Stage} (hs : s.Begins text) : s.finish text ≠ .error .torn := by
  cases s with
  | level begins =>
    obtain ⟨back, hback⟩ := IsPlace.isSome hs
    simp only [finish, hback]
    split <;> exact nofun
  | _ => exact nofun

/-- A reader that goes through places only, from one where it stands right, tears nothing. -/
theorem untorn_scan : ∀ {cs : List Char} {place : Nat} {s : Stage}, s.Begins text →
    (∀ front back, cs = front ++ back → IsPlace text (place + byteLength front)) →
      Untorn text (scan isPattern text place s cs)
  | [], _, _, hs, _ => hs
  | c :: cs, place, s, hs, hplaces => by
    have hplace : IsPlace text place := hplaces [] (c :: cs) rfl
    have hnext : IsPlace text (place + c.utf8Size) := hplaces [c] cs rfl
    have hstep : Untorn text (s.step isPattern text place c) :=
      Stage.untorn_step hs hplace hnext
    rw [scan]
    cases hs' : s.step isPattern text place c with
    | error flaw =>
      rw [hs'] at hstep
      exact hstep
    | ok s' =>
      rw [hs'] at hstep
      refine untorn_scan hstep fun front back hcs => ?_
      have hfront := hplaces (c :: front) back (congrArg (c :: ·) hcs)
      rwa [byteLength, ← Nat.add_assoc] at hfront

/-- A directive is not torn if the places of its text without white space around it are places of
the text. -/
theorem readDirective_ne_torn
    (h : ∀ front back, Space.trim text = front ++ back → IsPlace text (byteLength front)) :
    readDirective isPattern text ≠ .error .torn := by
  have hscan : Untorn text (scan isPattern text 0 .start (Space.trim text)) :=
    untorn_scan trivial fun front back heq => by
      rw [Nat.zero_add]
      exact h front back heq
  rw [readDirective]
  cases hread : scan isPattern text 0 .start (Space.trim text) with
  | error flaw =>
    rw [hread] at hscan
    exact fun heq => hscan (Except.error.inj heq)
  | ok s =>
    rw [hread] at hscan
    exact s.finish_ne_torn hscan

end

/-! ## What a torn filter looks like -/

theorem exists_eq_trim_append (text : List Char) :
    ∃ back, text.dropWhile isSpace = Space.trim text ++ back := by
  obtain ⟨front, hfront⟩ := List.dropWhile_suffix isSpace (l := (text.dropWhile isSpace).reverse)
  refine ⟨front.reverse, ?_⟩
  rw [Space.trim, ← List.reverse_append, hfront, List.reverse_reverse]

theorem byteLength_eq_length {cs : List Char} (h : ∀ c ∈ cs, c.utf8Size = 1) :
    byteLength cs = cs.length := by
  induction cs with
  | nil => rfl
  | cons c cs ih =>
    obtain ⟨hc, hcs⟩ := List.forall_mem_cons.mp h
    rw [byteLength, hc, ih hcs, List.length_cons, Nat.add_comm]

/-- A text with no white space in front has the places that it has without white space around
it. -/
theorem isPlace_of_not_space {text : List Char} (h : text.dropWhile isSpace = text)
    (front back : List Char) (htrim : Space.trim text = front ++ back) :
    IsPlace text (byteLength front) := by
  obtain ⟨rest, hrest⟩ := exists_eq_trim_append text
  refine ⟨front, back ++ rest, ?_, rfl⟩
  rw [← List.append_assoc, ← htrim, ← hrest, h]

/-- In a text of characters of single bytes every number of bytes up to its length is a place. -/
theorem isPlace_of_utf8Size_eq_one {text : List Char} (h : ∀ c ∈ text, c.utf8Size = 1)
    (front back : List Char) (htrim : Space.trim text = front ++ back) :
    IsPlace text (byteLength front) := by
  obtain ⟨rest, hrest⟩ := exists_eq_trim_append text
  have hsub : ∀ c ∈ front, c ∈ text := fun c hc => by
    have hmem : c ∈ text.dropWhile isSpace := by
      rw [hrest, htrim]
      exact List.mem_append_left _ (List.mem_append_left _ hc)
    exact (List.dropWhile_sublist _).subset hmem
  have hlength : front.length ≤ text.length := by
    have hdropped := (List.dropWhile_sublist isSpace (l := text)).length_le
    rw [hrest, htrim, List.length_append, List.length_append] at hdropped
    omega
  refine ⟨text.take front.length, text.drop front.length, (List.take_append_drop _ _).symm, ?_⟩
  rw [byteLength_eq_length fun c hc => h c (hsub c hc),
    byteLength_eq_length fun c hc => h c (List.mem_of_mem_take hc), List.length_take,
    Nat.min_eq_left hlength]

/-- A torn directive has white space in front and a character of more than one byte. -/
theorem exists_space_of_torn {isPattern : String → Bool} {text : List Char}
    (h : readDirective isPattern text = .error .torn) :
    (∃ c cs, text = c :: cs ∧ isSpace c = true) ∧ ∃ c ∈ text, 1 < c.utf8Size := by
  constructor
  · by_contra hnot
    refine readDirective_ne_torn (isPlace_of_not_space ?_) h
    cases text with
    | nil => rfl
    | cons c cs =>
      have hc : isSpace c = false := Bool.eq_false_iff.mpr fun hc => hnot ⟨c, cs, rfl, hc⟩
      rw [List.dropWhile_cons, hc]
      rfl
  · by_contra hnot
    refine readDirective_ne_torn (isPlace_of_utf8Size_eq_one fun c hc => ?_) h
    have hpos := c.utf8Size_pos
    have hle : ¬ 1 < c.utf8Size := fun hlt => hnot ⟨c, hc, hlt⟩
    omega

/-- Where reading a filter comes to a tear, one of its directives is torn. -/
theorem exists_torn_of_forM {isPattern : String → Bool} : ∀ {ds : List (List Char)},
    ds.forM (readDirective isPattern) = .error .torn →
      ∃ d ∈ ds, readDirective isPattern d = .error .torn
  | d :: ds, h => by
    rw [List.forM] at h
    cases hd : readDirective isPattern d with
    | error flaw =>
      rw [hd] at h
      obtain rfl := Except.error.inj h
      exact ⟨d, List.mem_cons_self, hd⟩
    | ok =>
      rw [hd] at h
      obtain ⟨d', hd', htorn⟩ := exists_torn_of_forM h
      exact ⟨d', List.mem_cons_of_mem _ hd', htorn⟩

theorem exists_torn_of_isTorn {isPattern : String → Bool} {filter : String}
    (h : isTorn isPattern filter = true) :
    ∃ d ∈ directives filter, readDirective isPattern d = .error .torn := by
  obtain ⟨d, hd, htorn⟩ := List.any_eq_true.mp h
  refine ⟨d, hd, ?_⟩
  split at htorn
  next hread => exact hread
  next => exact absurd htorn Bool.false_ne_true

/-- Setting up a filter has to stop only where the variable or the setting has a directive with
white space in front and a character of more than one byte. -/
theorem exists_space_of_tears {isPattern : String → Bool} {given? : Option String}
    {setting : String} (h : tears isPattern given? setting = true) :
    ∃ filter, (given? = some filter ∨ setting = filter) ∧ ∃ d ∈ directives filter,
      (∃ c cs, d = c :: cs ∧ isSpace c = true) ∧ ∃ c ∈ d, 1 < c.utf8Size := by
  have hsetting : isTorn isPattern setting = true → ∃ filter,
      (given? = some filter ∨ setting = filter) ∧
        ∃ d ∈ directives filter, readDirective isPattern d = .error .torn := fun htorn =>
    ⟨setting, Or.inr rfl, exists_torn_of_isTorn htorn⟩
  have htorn : ∃ filter, (given? = some filter ∨ setting = filter) ∧
      ∃ d ∈ directives filter, readDirective isPattern d = .error .torn := by
    unfold tears at h
    split at h
    next => exact absurd h Bool.false_ne_true
    next hread =>
      obtain ⟨filter, hgiven, hread⟩ := Option.map_eq_some_iff.mp hread
      exact ⟨filter, Or.inl hgiven, exists_torn_of_forM hread⟩
    next => exact hsetting h
    next => exact hsetting h
  obtain ⟨filter, hfilter, d, hd, hread⟩ := htorn
  exact ⟨filter, hfilter, d, hd, exists_space_of_torn hread⟩

end LogFilter

end ProxyHeader
