import Mathlib.Tactic.IntervalCases
import ProxyHeader.Json

/-!
# Reading JSON

A reader for the JSON texts whose numbers are natural numbers. It knows nothing of how
reports are written: it takes any white space between tokens, every escape but the halves
of surrogate pairs, and refuses leading zeros, control characters inside strings and
anything behind the value.

`Json.read?_render` says that a value is read back from its indented form. So that form is
well formed whatever strings are in the value, and determines the value
(`Json.render_inj`).
-/

namespace ProxyHeader

namespace Json

/-! ## White space, strings and numbers -/

/-- White space between tokens. -/
def isSpace (c : Char) : Bool :=
  c == ' ' || c == '\n' || c == '\t' || c == '\r'

/-- The text from its next token on. -/
def skipSpace (cs : List Char) : List Char :=
  cs.dropWhile isSpace

/-- The character that four hexadecimal digits stand for. -/
def codePoint? (c₃ c₂ c₁ c₀ : Char) : Option Char := do
  let d₃ ← Digits.digit? 16 c₃
  let d₂ ← Digits.digit? 16 c₂
  let d₁ ← Digits.digit? 16 c₁
  let d₀ ← Digits.digit? 16 c₀
  let n := Digits.value 16 [d₃, d₂, d₁, d₀]
  if n.isValidChar then some (Char.ofNat n) else none

/-- The character that a letter behind a backslash stands for. -/
def unescape? : Char → Option Char
  | '"' => some '"'
  | '\\' => some '\\'
  | '/' => some '/'
  | 'b' => some '\x08'
  | 'f' => some '\x0c'
  | 'n' => some '\n'
  | 'r' => some '\r'
  | 't' => some '\t'
  | _ => none

/-- Reads a string from behind its opening quotation mark. -/
def readString : List Char → Option (List Char × List Char)
  | '"' :: rest => some ([], rest)
  | '\\' :: 'u' :: c₃ :: c₂ :: c₁ :: c₀ :: rest => do
    let c ← codePoint? c₃ c₂ c₁ c₀
    let (s, rest) ← readString rest
    some (c :: s, rest)
  | '\\' :: letter :: rest => do
    let c ← unescape? letter
    let (s, rest) ← readString rest
    some (c :: s, rest)
  | c :: rest =>
    if c = '\\' ∨ c.toNat < 0x20 then none
    else do
      let (s, rest) ← readString rest
      some (c :: s, rest)
  | [] => none

/-- Reads a number. -/
def readNumber (cs : List Char) : Option (Json × List Char) :=
  match Digits.span 10 cs with
  | ([], _) => none
  | (0 :: _ :: _, _) => none
  | (ds, rest) => some (number (Digits.value 10 ds), rest)

/-! ## Values -/

mutual

/-- Reads a value, which may stand behind white space. -/
def readValue : Nat → List Char → Option (Json × List Char)
  | 0, _ => none
  | fuel + 1, cs =>
    match skipSpace cs with
    | 'n' :: 'u' :: 'l' :: 'l' :: rest => some (null, rest)
    | 't' :: 'r' :: 'u' :: 'e' :: rest => some (bool true, rest)
    | 'f' :: 'a' :: 'l' :: 's' :: 'e' :: rest => some (bool false, rest)
    | '"' :: rest => do
      let (s, rest) ← readString rest
      some (string (String.ofList s), rest)
    | '[' :: rest =>
      match skipSpace rest with
      | ']' :: rest => some (array [], rest)
      | _ => do
        let (v, rest) ← readValue fuel rest
        let (vs, rest) ← readItems fuel rest
        some (array (v :: vs), rest)
    | '\x7b' :: rest =>
      match skipSpace rest with
      | '\x7d' :: rest => some (object [], rest)
      | _ => do
        let (field, rest) ← readField fuel rest
        let (fields, rest) ← readFields fuel rest
        some (object (field :: fields), rest)
    | rest => readNumber rest

/-- Reads the elements of an array after its first, and its end. -/
def readItems : Nat → List Char → Option (List Json × List Char)
  | 0, _ => none
  | fuel + 1, cs =>
    match skipSpace cs with
    | ']' :: rest => some ([], rest)
    | ',' :: rest => do
      let (v, rest) ← readValue fuel rest
      let (vs, rest) ← readItems fuel rest
      some (v :: vs, rest)
    | _ => none

/-- Reads a field of an object: its name, a colon, its value. -/
def readField : Nat → List Char → Option ((String × Json) × List Char)
  | 0, _ => none
  | fuel + 1, cs =>
    match skipSpace cs with
    | '"' :: rest => do
      let (name, rest) ← readString rest
      match skipSpace rest with
      | ':' :: rest => do
        let (v, rest) ← readValue fuel rest
        some ((String.ofList name, v), rest)
      | _ => none
    | _ => none

/-- Reads the fields of an object after its first, and its end. -/
def readFields : Nat → List Char → Option (List (String × Json) × List Char)
  | 0, _ => none
  | fuel + 1, cs =>
    match skipSpace cs with
    | '\x7d' :: rest => some ([], rest)
    | ',' :: rest => do
      let (field, rest) ← readField fuel rest
      let (fields, rest) ← readFields fuel rest
      some (field :: fields, rest)
    | _ => none

end

/-- The value that a text is, if it is a JSON text. A value takes no more steps to read
than it has characters. -/
def read? (text : String) : Option Json :=
  match readValue (text.toList.length + 1) text.toList with
  | some (v, rest) => if skipSpace rest = [] then some v else none
  | none => none

/-- The first field of a given name. -/
def field? (name : String) : Json → Option Json
  | object fields => fields.lookup name
  | _ => none

/-! ## Strings are read back -/

theorem codePoint?_of_lt {c : Char} (h : c.toNat < 0x20) :
    codePoint? '0' '0' (Nat.digitChar (c.toNat / 16)) (Nat.digitChar (c.toNat % 16)) = some c := by
  have hzero : Digits.digit? 16 '0' = some 0 := by decide
  have hhigh := Digits.digit?_digitChar (Nat.le_refl 16) (show c.toNat / 16 < 16 by omega)
  have hlow := Digits.digit?_digitChar (Nat.le_refl 16) (show c.toNat % 16 < 16 by omega)
  have hvalue : Digits.value 16 [0, 0, c.toNat / 16, c.toNat % 16] = c.toNat := by
    simp only [Digits.value, List.foldl_cons, List.foldl_nil]
    omega
  have hvalid : c.toNat.isValidChar := Or.inl (by omega)
  simp only [codePoint?, hzero, hhigh, hlow, Option.bind_eq_bind, Option.bind_some, hvalue,
    if_pos hvalid, Char.ofNat_toNat]

/-- A character is read back from how it is written inside a string. -/
theorem readString_escape_append (c : Char) (rest : List Char) :
    readString (escape c ++ rest) =
      (readString rest).map fun (s, rest) => (c :: s, rest) := by
  have hbind : ∀ r : Option (List Char × List Char),
      (r.bind fun (s, rest) => some (c :: s, rest)) = r.map fun (s, rest) => (c :: s, rest) :=
    fun r => by cases r <;> rfl
  unfold escape
  split
  next h => subst h; exact hbind _
  split
  next h => subst h; exact hbind _
  split
  next h => subst h; exact hbind _
  split
  next h => subst h; exact hbind _
  split
  next h => subst h; exact hbind _
  split
  next h => subst h; exact hbind _
  split
  next h => subst h; exact hbind _
  split
  next hlt =>
    rw [← hbind]
    simp only [List.cons_append, List.nil_append, readString, codePoint?_of_lt hlt]
    rfl
  next hquote hbackslash _ _ _ _ _ hge =>
    rw [List.singleton_append, readString.eq_def]
    split
    · simp_all
    · simp_all
    · simp_all
    next heq => 
      obtain ⟨rfl, rfl⟩ := List.cons.inj heq
      rw [if_neg (by simp [hbackslash, hge])]
      exact hbind _
    · simp_all

theorem readString_flatMap_escape (rest : List Char) :
    ∀ s : List Char, readString (s.flatMap escape ++ '"' :: rest) = some (s, rest)
  | [] => rfl
  | c :: s => by
    rw [List.flatMap_cons, List.append_assoc, readString_escape_append,
      readString_flatMap_escape rest s, Option.map_some]

/-- A string is read back from behind its opening quotation mark. -/
theorem exists_quote_eq_cons (s : String) : ∃ cs, quote s = '"' :: cs ∧ 0 < cs.length ∧
    ∀ rest, readString (cs ++ rest) = some (s.toList, rest) := by
  refine ⟨s.toList.flatMap escape ++ ['"'], rfl, by simp, fun rest => ?_⟩
  rw [List.append_assoc]
  exact readString_flatMap_escape rest s.toList

/-! ## Numbers are read back -/

/-- A text that no number goes on into. -/
def EndsNumber (rest : List Char) : Prop :=
  Digits.span 10 rest = ([], rest)

theorem readNumber_toDigits_append (n : Nat) {rest : List Char} (h : EndsNumber rest) :
    readNumber (Nat.toDigits 10 n ++ rest) = some (number n, rest) := by
  obtain ⟨d, ds, hvalue, hzero, hspan⟩ := Digits.span_toDigits (show 1 < 10 by decide) (by decide) n
  have hdigits : Digits.span 10 (Nat.toDigits 10 n ++ rest) = (d :: ds, rest) := by
    rw [hspan, h, List.append_nil]
  rw [readNumber, hdigits]
  split
  next heq => simp at heq
  next heq =>
    obtain ⟨rfl, rfl⟩ := List.cons.inj (Prod.mk.inj heq).1
    simp at hzero
  next heq =>
    obtain ⟨rfl, rfl⟩ := Prod.mk.inj heq
    rw [hvalue]

theorem exists_toDigits_eq_cons (n : Nat) :
    ∃ d cs, d < 10 ∧ Nat.toDigits 10 n = Nat.digitChar d :: cs := by
  obtain ⟨c, cs, hcs⟩ := List.exists_cons_of_ne_nil (Nat.toDigits_ne_nil (n := n) (b := 10))
  obtain ⟨d, hd, rfl⟩ := Digits.exists_of_mem_toDigits (c := c) (by decide)
    (hcs ▸ List.mem_cons_self)
  exact ⟨d, cs, hd, hcs⟩

/-! ## Values are read back -/

theorem skipSpace_newline_append (depth : Nat) (cs : List Char) :
    skipSpace (newline depth ++ cs) = skipSpace cs := by
  refine List.dropWhile_append_of_pos fun c hc => ?_
  rcases List.mem_cons.mp hc with rfl | hc
  · rfl
  · rw [List.eq_of_mem_replicate hc]
    rfl

/-- A digit is no white space and ends no array. -/
theorem isSpace_digitChar :
    ∀ d < 10, isSpace (Nat.digitChar d) = false ∧ Nat.digitChar d ≠ ']' := by
  decide

/-- A written value opens with a character that is no white space and ends no array. -/
theorem exists_chars_eq_cons (depth : Nat) (v : Json) :
    ∃ c cs, chars depth v = c :: cs ∧ isSpace c = false ∧ c ≠ ']' := by
  cases v with
  | null => exact ⟨_, _, rfl, rfl, by decide⟩
  | bool b => cases b <;> exact ⟨_, _, rfl, rfl, by decide⟩
  | number n =>
    obtain ⟨d, cs, hd, hcs⟩ := exists_toDigits_eq_cons n
    exact ⟨_, _, hcs, isSpace_digitChar d hd⟩
  | string s => exact ⟨_, _, rfl, rfl, by decide⟩
  | array vs => cases vs <;> exact ⟨_, _, rfl, rfl, by decide⟩
  | object fs => cases fs <;> exact ⟨_, _, rfl, rfl, by decide⟩

/-- White space in front of a value makes no difference. -/
theorem readValue_congr {cs cs' : List Char} (h : skipSpace cs = skipSpace cs') :
    ∀ fuel, readValue fuel cs = readValue fuel cs'
  | 0 => by rw [readValue, readValue]
  | fuel + 1 => by rw [readValue, readValue, h]

/-- A digit opens a number. -/
theorem readValue_digitChar (fuel : Nat) (cs : List Char) {d : Nat} (hd : d < 10) :
    readValue (fuel + 1) (Nat.digitChar d :: cs) = readNumber (Nat.digitChar d :: cs) := by
  interval_cases d <;> rfl

/-- Behind a bracket that is not closed at once stand elements. -/
theorem readValue_bracket {fuel : Nat} {rest cs : List Char} {c : Char}
    (h : skipSpace rest = c :: cs) (hc : c ≠ ']') :
    readValue (fuel + 1) ('[' :: rest) = (readValue fuel rest).bind fun (v, rest) =>
      (readItems fuel rest).bind fun (vs, rest) => some (array (v :: vs), rest) := by
  rw [readValue]
  show (match skipSpace rest with
    | ']' :: rest => some (array [], rest)
    | _ => _) = _
  rw [h]
  split
  next heq => exact absurd (List.cons.inj heq).1 hc
  next => rfl

/-- Behind a brace that is not closed at once stand fields. -/
theorem readValue_brace {fuel : Nat} {rest cs : List Char} (h : skipSpace rest = '"' :: cs) :
    readValue (fuel + 1) ('\x7b' :: rest) = (readField fuel rest).bind fun (field, rest) =>
      (readFields fuel rest).bind fun (fields, rest) =>
        some (object (field :: fields), rest) := by
  rw [readValue]
  show (match skipSpace rest with
    | '\x7d' :: rest => some (object [], rest)
    | _ => _) = _
  rw [h]
  rfl

theorem endsNumber_itemChars (depth depth' : Nat) (vs : List Json) (rest : List Char) :
    EndsNumber (itemChars depth vs ++ (newline depth' ++ rest)) := by
  cases vs <;> rfl

theorem endsNumber_fieldChars (depth depth' : Nat) (fs : List (String × Json))
    (rest : List Char) : EndsNumber (fieldChars depth fs ++ (newline depth' ++ rest)) := by
  cases fs <;> rfl

theorem skipSpace_chars (depth : Nat) (v : Json) (rest : List Char) :
    ∃ c cs, skipSpace (newline depth ++ (chars depth v ++ rest)) = c :: cs ∧ c ≠ ']' := by
  obtain ⟨c, cs, hcs, hspace, hc⟩ := exists_chars_eq_cons depth v
  refine ⟨c, cs ++ rest, ?_, hc⟩
  rw [skipSpace_newline_append, hcs, List.cons_append, skipSpace, List.dropWhile_cons_of_neg]
  simp [hspace]

theorem skipSpace_quote_append (depth : Nat) (name : String) (rest : List Char) :
    skipSpace (newline depth ++ (quote name ++ rest)) =
      '"' :: (name.toList.flatMap escape ++ ['"'] ++ rest) := by
  rw [skipSpace_newline_append]
  rfl

/-- A field is read back if its value is. -/
theorem readField_of_readValue (depth : Nat) (name : String) {fuel : Nat} {v : Json}
    {cs rest : List Char} (h : readValue fuel cs = some (v, rest)) :
    readField (fuel + 1) (newline depth ++ (quote name ++ (':' :: ' ' :: cs))) =
      some ((name, v), rest) := by
  obtain ⟨ks, hks, -, hname⟩ := exists_quote_eq_cons name
  have hskip : skipSpace (' ' :: cs) = skipSpace cs := rfl
  rw [readField, skipSpace_newline_append, hks]
  show (readString (ks ++ _)).bind _ = _
  rw [hname]
  show (readValue fuel (' ' :: cs)).bind _ = _
  rw [readValue_congr hskip, h]
  show some ((String.ofList name.toList, v), rest) = _
  rw [String.ofList_toList]

mutual

/-- A value is read back, whatever follows it. -/
theorem readValue_chars_append : ∀ (v : Json) (depth fuel : Nat) (rest : List Char),
    (chars depth v).length < fuel → EndsNumber rest →
    readValue fuel (chars depth v ++ rest) = some (v, rest)
  | _, _, 0, _, h, _ => absurd h (Nat.not_lt_zero _)
  | null, _, _ + 1, _, _, _ => rfl
  | bool true, _, _ + 1, _, _, _ => rfl
  | bool false, _, _ + 1, _, _, _ => rfl
  | number n, depth, fuel + 1, rest, _, hrest => by
    obtain ⟨d, cs, hd, hcs⟩ := exists_toDigits_eq_cons n
    have hread := readNumber_toDigits_append n hrest
    rw [chars, hcs, List.cons_append]
    rw [hcs, List.cons_append] at hread
    rw [readValue_digitChar fuel _ hd, hread]
  | string s, depth, fuel + 1, rest, _, _ => by
    obtain ⟨cs, hcs, -, hread⟩ := exists_quote_eq_cons s
    rw [chars, hcs]
    show (readString (cs ++ rest)).bind _ = _
    rw [hread]
    show some (string (String.ofList s.toList), rest) = _
    rw [String.ofList_toList]
  | array [], _, _ + 1, _, _, _ => rfl
  | array (v :: vs), depth, fuel + 1, rest, h, _ => by
    simp only [chars, List.length_append, List.length_cons] at h
    have hv := readValue_chars_append v (depth + 1) fuel
      (itemChars (depth + 1) vs ++ (newline depth ++ ']' :: rest)) (by omega)
      (endsNumber_itemChars _ _ _ _)
    have hvs := readItems_itemChars vs (depth + 1) depth fuel rest (by omega)
    obtain ⟨c, cs, hcs, hc⟩ := skipSpace_chars (depth + 1) v
      (itemChars (depth + 1) vs ++ (newline depth ++ ']' :: rest))
    simp only [chars, List.append_assoc, List.cons_append, List.nil_append]
    rw [readValue_bracket hcs hc, readValue_congr (skipSpace_newline_append _ _), hv,
      Option.bind_some]
    simp only [hvs, Option.bind_some]
  | object [], _, _ + 1, _, _, _ => rfl
  | object ((name, v) :: fs), depth, fuel + 1, rest, h, _ => by
    obtain ⟨ks, hks, hlength, -⟩ := exists_quote_eq_cons name
    simp only [chars, hks, List.length_append, List.length_cons] at h
    -- a field takes one step more than its value
    obtain ⟨fuel, rfl⟩ := Nat.exists_eq_add_one_of_ne_zero (show fuel ≠ 0 by omega)
    have hv := readValue_chars_append v (depth + 1) fuel
      (fieldChars (depth + 1) fs ++ (newline depth ++ '\x7d' :: rest)) (by omega)
      (endsNumber_fieldChars _ _ _ _)
    have hfs := readFields_fieldChars fs (depth + 1) depth (fuel + 1) rest (by omega)
    have hfield := readField_of_readValue (depth + 1) name hv
    simp only [chars, List.append_assoc, List.cons_append, List.nil_append]
    rw [readValue_brace (skipSpace_quote_append _ _ _), hfield, Option.bind_some]
    simp only [hfs, Option.bind_some]

theorem readItems_itemChars : ∀ (vs : List Json) (depth depth' fuel : Nat) (rest : List Char),
    (itemChars depth vs).length < fuel →
    readItems fuel (itemChars depth vs ++ (newline depth' ++ ']' :: rest)) = some (vs, rest)
  | _, _, _, 0, _, h => absurd h (Nat.not_lt_zero _)
  | [], depth, depth', fuel + 1, rest, _ => by
    rw [itemChars, List.nil_append, readItems, skipSpace_newline_append]
    rfl
  | v :: vs, depth, depth', fuel + 1, rest, h => by
    simp only [itemChars, List.length_append, List.length_cons] at h
    have hv := readValue_chars_append v depth fuel
      (itemChars depth vs ++ (newline depth' ++ ']' :: rest)) (by omega)
      (endsNumber_itemChars _ _ _ _)
    have hvs := readItems_itemChars vs depth depth' fuel rest (by omega)
    simp only [itemChars, List.append_assoc, List.cons_append]
    rw [readItems]
    show (readValue fuel (newline depth ++ _)).bind _ = _
    rw [readValue_congr (skipSpace_newline_append _ _), hv]
    simp only [Option.bind_some, hvs]
    rfl

theorem readFields_fieldChars : ∀ (fs : List (String × Json)) (depth depth' fuel : Nat)
    (rest : List Char), (fieldChars depth fs).length < fuel →
    readFields fuel (fieldChars depth fs ++ (newline depth' ++ '\x7d' :: rest)) = some (fs, rest)
  | _, _, _, 0, _, h => absurd h (Nat.not_lt_zero _)
  | [], depth, depth', fuel + 1, rest, _ => by
    rw [fieldChars, List.nil_append, readFields, skipSpace_newline_append]
    rfl
  | (name, v) :: fs, depth, depth', fuel + 1, rest, h => by
    obtain ⟨ks, hks, hlength, -⟩ := exists_quote_eq_cons name
    simp only [fieldChars, hks, List.length_append, List.length_cons] at h
    obtain ⟨fuel, rfl⟩ := Nat.exists_eq_add_one_of_ne_zero (show fuel ≠ 0 by omega)
    have hv := readValue_chars_append v depth fuel
      (fieldChars depth fs ++ (newline depth' ++ '\x7d' :: rest)) (by omega)
      (endsNumber_fieldChars _ _ _ _)
    have hfs := readFields_fieldChars fs depth depth' (fuel + 1) rest (by omega)
    have hfield := readField_of_readValue depth name hv
    simp only [fieldChars, List.append_assoc, List.cons_append, List.nil_append]
    rw [readFields]
    show (readField (fuel + 1) (newline depth ++ _)).bind _ = _
    rw [hfield]
    simp only [Option.bind_some, hfs]
    rfl

end

/-- A value is read back from its indented form. -/
theorem read?_render (v : Json) : read? v.render = some v := by
  have h := readValue_chars_append v 0 ((v.chars 0).length + 1) [] (Nat.lt_succ_self _) rfl
  rw [List.append_nil] at h
  rw [read?, render, String.toList_ofList, h]
  rfl

/-- The indented form determines the value. -/
theorem render_inj {v w : Json} (h : v.render = w.render) : v = w := by
  have hread := read?_render v
  rw [h, read?_render] at hread
  exact (Option.some.inj hread).symm

end Json

end ProxyHeader
