import ProxyHeader.Proofs.JsonReader
import ProxyHeader.Proofs.Utf8

/-!
# The grammar of JSON

`Json.IsText` says which texts are JSON texts and of what value, with no reader at work: a
relation for each kind of token between a text, what stands at the front of it, and the rest.
It covers the values that reports are made of. Numbers are natural numbers, and no character
is written as two halves of a surrogate pair.

The reader accepts exactly these texts (`Json.read?_eq_some_iff`). So a text is one of at most
one value, and the indented form of a value is a text of that value and of no other
(`Json.readsAs_render`).
-/

namespace ProxyHeader

namespace Json

namespace Grammar

/-- White space, and what follows it. -/
inductive Spaces : List Char → List Char → Prop
  | done (cs : List Char) : Spaces cs cs
  | more {c : Char} {cs rest : List Char} (hc : c ∈ [' ', '\n', '\t', '\r'])
      (h : Spaces cs rest) : Spaces (c :: cs) rest

/-- The letters that stand for a character behind a backslash. -/
def letters : List (Char × Char) :=
  [('"', '"'), ('\\', '\\'), ('/', '/'), ('b', '\x08'), ('f', '\x0c'), ('n', '\n'),
    ('r', '\r'), ('t', '\t')]

/-- A character as it is written inside a string, and what follows it. -/
inductive StringChar : List Char → Char → List Char → Prop
  | plain {c : Char} {rest : List Char} (hcontrol : 0x20 ≤ c.toNat) (hquote : c ≠ '"')
      (hbackslash : c ≠ '\\') : StringChar (c :: rest) c rest
  | letter {l c : Char} {rest : List Char} (h : (l, c) ∈ letters) :
      StringChar ('\\' :: l :: rest) c rest
  | code {c₃ c₂ c₁ c₀ c : Char} {d₃ d₂ d₁ d₀ : Nat} {rest : List Char}
      (h₃ : Digits.digit? 16 c₃ = some d₃) (h₂ : Digits.digit? 16 c₂ = some d₂)
      (h₁ : Digits.digit? 16 c₁ = some d₁) (h₀ : Digits.digit? 16 c₀ = some d₀)
      (hc : c.toNat = ((d₃ * 16 + d₂) * 16 + d₁) * 16 + d₀) :
      StringChar ('\\' :: 'u' :: c₃ :: c₂ :: c₁ :: c₀ :: rest) c rest

/-- The characters of a string up to its closing quotation mark, and what follows it. -/
inductive StringChars : List Char → List Char → List Char → Prop
  | done (rest : List Char) : StringChars ('"' :: rest) [] rest
  | more {c : Char} {cs cs' s rest : List Char} (hc : StringChar cs c cs')
      (h : StringChars cs' s rest) : StringChars cs (c :: s) rest

mutual

/-- A value as it is written, and what follows it. -/
inductive Value : List Char → Json → List Char → Prop
  | nullName (rest : List Char) : Value ('n' :: 'u' :: 'l' :: 'l' :: rest) null rest
  | trueName (rest : List Char) : Value ('t' :: 'r' :: 'u' :: 'e' :: rest) (bool true) rest
  | falseName (rest : List Char) :
      Value ('f' :: 'a' :: 'l' :: 's' :: 'e' :: rest) (bool false) rest
  | number (n : Nat) (rest : List Char) : Value (Nat.toDigits 10 n ++ rest) (number n) rest
  | string {cs s rest : List Char} (h : StringChars cs s rest) :
      Value ('"' :: cs) (string (String.ofList s)) rest
  | emptyArray {cs rest : List Char} (h : Spaces cs (']' :: rest)) :
      Value ('[' :: cs) (array []) rest
  | array {cs cs₁ cs₂ rest : List Char} {v : Json} {vs : List Json} (hs : Spaces cs cs₁)
      (hv : Value cs₁ v cs₂) (hvs : Items cs₂ vs rest) : Value ('[' :: cs) (array (v :: vs)) rest
  | emptyObject {cs rest : List Char} (h : Spaces cs ('\x7d' :: rest)) :
      Value ('\x7b' :: cs) (object []) rest
  | object {cs cs₁ rest : List Char} {f : String × Json} {fs : List (String × Json)}
      (hf : Field cs f cs₁) (hfs : Fields cs₁ fs rest) :
      Value ('\x7b' :: cs) (object (f :: fs)) rest

/-- The elements of an array after its first, and what follows its closing bracket. -/
inductive Items : List Char → List Json → List Char → Prop
  | done {cs rest : List Char} (h : Spaces cs (']' :: rest)) : Items cs [] rest
  | more {cs cs₁ cs₂ cs₃ rest : List Char} {v : Json} {vs : List Json}
      (hcomma : Spaces cs (',' :: cs₁)) (hs : Spaces cs₁ cs₂) (hv : Value cs₂ v cs₃)
      (hvs : Items cs₃ vs rest) : Items cs (v :: vs) rest

/-- A field of an object, and what follows it. -/
inductive Field : List Char → String × Json → List Char → Prop
  | mk {cs cs₁ cs₂ cs₃ cs₄ name rest : List Char} {v : Json} (hquote : Spaces cs ('"' :: cs₁))
      (hname : StringChars cs₁ name cs₂) (hcolon : Spaces cs₂ (':' :: cs₃))
      (hs : Spaces cs₃ cs₄) (hv : Value cs₄ v rest) : Field cs (String.ofList name, v) rest

/-- The fields of an object after its first, and what follows its closing brace. -/
inductive Fields : List Char → List (String × Json) → List Char → Prop
  | done {cs rest : List Char} (h : Spaces cs ('\x7d' :: rest)) : Fields cs [] rest
  | more {cs cs₁ cs₂ rest : List Char} {f : String × Json} {fs : List (String × Json)}
      (hcomma : Spaces cs (',' :: cs₁)) (hf : Field cs₁ f cs₂) (hfs : Fields cs₂ fs rest) :
      Fields cs (f :: fs) rest

end

end Grammar

open Grammar in
/-- The text is white space, a value and white space. -/
def IsText (text : String) (v : Json) : Prop :=
  ∃ cs rest, Spaces text.toList cs ∧ Value cs v rest ∧ Spaces rest []

namespace Grammar

/-! ## White space -/

theorem isSpace_iff {c : Char} : isSpace c = true ↔ c ∈ [' ', '\n', '\t', '\r'] := by
  simp [isSpace, or_assoc]

theorem spaces_skipSpace : ∀ cs : List Char, Spaces cs (skipSpace cs)
  | [] => .done _
  | c :: cs => by
    by_cases hc : isSpace c = true
    · rw [skipSpace, List.dropWhile_cons_of_pos hc]
      exact .more (isSpace_iff.mp hc) (spaces_skipSpace cs)
    · rw [skipSpace, List.dropWhile_cons_of_neg hc]
      exact .done _

theorem Spaces.skipSpace_eq {cs rest : List Char} (h : Spaces cs rest) :
    skipSpace cs = skipSpace rest := by
  induction h with
  | done => rfl
  | more hc _ ih => rw [skipSpace, List.dropWhile_cons_of_pos (isSpace_iff.mpr hc), ← ih, skipSpace]

theorem Spaces.length_le {cs rest : List Char} (h : Spaces cs rest) :
    rest.length ≤ cs.length := by
  induction h with
  | done => exact Nat.le_refl _
  | more _ _ ih => exact Nat.le_succ_of_le ih

/-! ## Strings -/

theorem unescape?_eq_some_iff {l c : Char} : unescape? l = some c ↔ (l, c) ∈ letters := by
  unfold unescape?
  split <;> simp_all [letters, eq_comm]

theorem codePoint?_eq_some_iff {c₃ c₂ c₁ c₀ c : Char} : codePoint? c₃ c₂ c₁ c₀ = some c ↔
    ∃ d₃ d₂ d₁ d₀, Digits.digit? 16 c₃ = some d₃ ∧ Digits.digit? 16 c₂ = some d₂ ∧
      Digits.digit? 16 c₁ = some d₁ ∧ Digits.digit? 16 c₀ = some d₀ ∧
      c.toNat = ((d₃ * 16 + d₂) * 16 + d₁) * 16 + d₀ := by
  have hchar : ∀ n : Nat, (if n.isValidChar then some (Char.ofNat n) else none) = some c ↔
      c.toNat = n := by
    intro n
    rw [Option.ite_none_right_eq_some, Option.some_inj]
    constructor
    · rintro ⟨hvalid, rfl⟩
      exact Utf8.val_ofNat hvalid
    · rintro rfl
      exact ⟨c.valid, Char.ofNat_toNat c⟩
  have hvalue : ∀ d₃ d₂ d₁ d₀, Digits.value 16 [d₃, d₂, d₁, d₀] =
      ((d₃ * 16 + d₂) * 16 + d₁) * 16 + d₀ := by
    simp [Digits.value]
  simp only [codePoint?, Option.bind_eq_bind, Option.bind_eq_some_iff, hchar, hvalue]
  constructor
  · rintro ⟨d₃, h₃, d₂, h₂, d₁, h₁, d₀, h₀, hc⟩
    exact ⟨d₃, d₂, d₁, d₀, h₃, h₂, h₁, h₀, hc⟩
  · rintro ⟨d₃, d₂, d₁, d₀, h₃, h₂, h₁, h₀, hc⟩
    exact ⟨d₃, h₃, d₂, h₂, d₁, h₁, d₀, h₀, hc⟩

/-- What is read of a string behind its next character. -/
theorem bind_cons_eq_some_iff {c : Char} {r : Option (List Char × List Char)}
    {s rest : List Char} : (r.bind fun (s, rest) => some (c :: s, rest)) = some (s, rest) ↔
      ∃ s', s = c :: s' ∧ r = some (s', rest) := by
  rcases r with _ | ⟨s', rest'⟩
  · simp
  · simp only [Option.bind_some, Option.some_inj, Prod.mk.injEq]
    constructor
    · rintro ⟨rfl, rfl⟩
      exact ⟨s', rfl, rfl, rfl⟩
    · rintro ⟨_, rfl, rfl, rfl⟩
      exact ⟨rfl, rfl⟩

theorem stringChars_of_readString (cs : List Char) : ∀ {s rest : List Char},
    readString cs = some (s, rest) → StringChars cs s rest := by
  induction cs using readString.induct with
  | case1 rest =>
    intro s rest' h
    obtain ⟨rfl, rfl⟩ := Prod.mk.inj (Option.some.inj h)
    exact .done rest
  | case2 c₃ c₂ c₁ c₀ cs ih =>
    intro s rest h
    rw [readString, Option.bind_eq_bind, Option.bind_eq_some_iff] at h
    obtain ⟨c, hc, h⟩ := h
    obtain ⟨s, rfl, hs⟩ := bind_cons_eq_some_iff.mp h
    obtain ⟨d₃, d₂, d₁, d₀, h₃, h₂, h₁, h₀, hc⟩ := codePoint?_eq_some_iff.mp hc
    exact .more (.code h₃ h₂ h₁ h₀ hc) (ih hs)
  | case3 letter cs hu ih =>
    intro s rest h
    rw [readString, Option.bind_eq_bind, Option.bind_eq_some_iff] at h
    · obtain ⟨c, hc, h⟩ := h
      obtain ⟨s, rfl, hs⟩ := bind_cons_eq_some_iff.mp h
      exact .more (.letter (unescape?_eq_some_iff.mp hc)) (ih hs)
    · exact hu
  | case4 c cs hquote hcode hletter hbad =>
    intro s rest h
    rw [readString, if_pos hbad] at h
    · cases h
    · exact hquote
    · exact hcode
    · exact hletter
  | case5 c cs hquote hcode hletter hgood ih =>
    intro s rest h
    rw [readString, if_neg hgood] at h
    · obtain ⟨s, rfl, hs⟩ := bind_cons_eq_some_iff.mp h
      rw [not_or, Nat.not_lt] at hgood
      exact .more (.plain hgood.2 hquote hgood.1) (ih hs)
    · exact hquote
    · exact hcode
    · exact hletter
  | case6 =>
    intro s rest h
    cases h

theorem readString_of_stringChars {cs s rest : List Char} (h : StringChars cs s rest) :
    readString cs = some (s, rest) := by
  induction h with
  | done rest => rfl
  | @more c cs cs' s rest hc h ih =>
    cases hc with
    | plain hcontrol hquote hbackslash =>
      rw [readString, if_neg (by simp [hbackslash, hcontrol]), ih]
      · rfl
      · exact hquote
      · exact fun _ _ _ _ _ hc => absurd hc hbackslash
      · exact fun _ _ hc => absurd hc hbackslash
    | @letter l _ _ hl =>
      have hu : ∀ c₃ c₂ c₁ c₀ rest, l = 'u' → cs' = c₃ :: c₂ :: c₁ :: c₀ :: rest → False := by
        rintro _ _ _ _ _ rfl
        simp [letters] at hl
      rw [readString, unescape?_eq_some_iff.mpr hl, ih]
      · rfl
      · exact hu
    | code h₃ h₂ h₁ h₀ hc =>
      have hcode := codePoint?_eq_some_iff.mpr ⟨_, _, _, _, h₃, h₂, h₁, h₀, hc⟩
      rw [readString, hcode, ih]
      rfl

/-! ## Numbers -/

theorem eq_digitChar_of_digit? {c : Char} {d : Nat} (h : Digits.digit? 10 c = some d) :
    d < 10 ∧ c = Nat.digitChar d := by
  rw [Digits.digit?, Option.filter_eq_some_iff, decide_eq_true_eq] at h
  obtain ⟨hd, hlt⟩ := h
  refine ⟨hlt, Char.toNat_inj.mp ?_⟩
  rw [Nat.toNat_digitChar_of_lt_ten hlt]
  split at hd
  next hc =>
    have hge : '0'.toNat ≤ c.toNat := hc.1
    have hzero : '0'.toNat = 48 := rfl
    have hvalue := Option.some.inj hd
    omega
  -- a letter is worth ten or more
  split at hd
  · have hvalue := Option.some.inj hd
    omega
  split at hd
  · have hvalue := Option.some.inj hd
    omega
  · cases hd

theorem eq_append_of_span : ∀ {cs rest : List Char} {ds : List Nat},
    Digits.span 10 cs = (ds, rest) → cs = ds.map Nat.digitChar ++ rest ∧ ∀ d ∈ ds, d < 10
  | [], rest, ds, h => by
    obtain ⟨rfl, rfl⟩ := Prod.mk.inj h
    simp
  | c :: cs, rest, ds, h => by
    rw [Digits.span] at h
    split at h
    next d hd =>
      obtain ⟨rfl, rfl⟩ := Prod.mk.inj h
      obtain ⟨hlt, rfl⟩ := eq_digitChar_of_digit? hd
      obtain ⟨hcs, hds⟩ := eq_append_of_span (show Digits.span 10 cs = _ from rfl)
      rw [List.map_cons, List.cons_append, ← hcs]
      exact ⟨rfl, List.forall_mem_cons.mpr ⟨hlt, hds⟩⟩
    next =>
      obtain ⟨rfl, rfl⟩ := Prod.mk.inj h
      simp

/-- Digits behind a number that is not zero are added to its numeral. -/
theorem toDigits_foldl {ds : List Nat} (hlt : ∀ d ∈ ds, d < 10) {n : Nat} (hn : 0 < n) :
    Nat.toDigits 10 (ds.foldl (fun n d => n * 10 + d) n) =
      Nat.toDigits 10 n ++ ds.map Nat.digitChar := by
  induction ds generalizing n with
  | nil => rw [List.foldl_nil, List.map_nil, List.append_nil]
  | cons d ds ih =>
    obtain ⟨hd, hds⟩ := List.forall_mem_cons.mp hlt
    have hnumeral : Nat.toDigits 10 (n * 10 + d) = Nat.toDigits 10 n ++ [Nat.digitChar d] := by
      rw [Nat.mul_comm, ← Nat.toDigits_append_toDigits (by decide) hn hd,
        Nat.toDigits_of_lt_base hd]
    rw [List.foldl_cons, ih hds (by omega), hnumeral, List.map_cons, List.append_assoc]
    rfl

/-- Digits are the numeral of the number that they write, unless they open with a zero for
nothing. -/
theorem toDigits_value {d : Nat} {ds : List Nat} (hlt : ∀ x ∈ d :: ds, x < 10)
    (hzero : d = 0 → ds = []) :
    Nat.toDigits 10 (Digits.value 10 (d :: ds)) = (d :: ds).map Nat.digitChar := by
  obtain ⟨hd, hds⟩ := List.forall_mem_cons.mp hlt
  have hvalue : Digits.value 10 (d :: ds) = ds.foldl (fun n d => n * 10 + d) d := by
    rw [Digits.value, List.foldl_cons, Nat.zero_mul, Nat.zero_add]
  rw [hvalue, List.map_cons]
  rcases Nat.eq_zero_or_pos d with hd₀ | hpos
  · rw [hzero hd₀, List.foldl_nil, Nat.toDigits_of_lt_base hd, List.map_nil]
  · rw [toDigits_foldl hds hpos, Nat.toDigits_of_lt_base hd, List.singleton_append]

/-- A number that is read stands there in its decimal form. -/
theorem exists_of_readNumber {cs rest : List Char} {v : Json}
    (h : readNumber cs = some (v, rest)) :
    ∃ n, v = number n ∧ cs = Nat.toDigits 10 n ++ rest := by
  rw [readNumber] at h
  split at h
  · cases h
  · cases h
  next ds rest' hne hzero hspan =>
    obtain ⟨rfl, rfl⟩ := Prod.mk.inj (Option.some.inj h)
    obtain ⟨hcs, hlt⟩ := eq_append_of_span hspan
    obtain ⟨d, ds, rfl⟩ := List.exists_cons_of_ne_nil hne
    have hnumeral : d = 0 → ds = [] := by
      rintro rfl
      by_contra hds
      obtain ⟨d', ds, rfl⟩ := List.exists_cons_of_ne_nil hds
      exact hzero d' ds rfl
    exact ⟨_, rfl, by rw [hcs, toDigits_value hlt hnumeral]⟩

/-! ## What is read stands in the text -/

-- by induction on the fuel, for all four readers at once: each calls the others with less
mutual

theorem value_of_readValue : ∀ (fuel : Nat) {cs rest : List Char} {v : Json},
    readValue fuel cs = some (v, rest) → Value (skipSpace cs) v rest
  | 0, _, _, _, h => by
    rw [readValue] at h
    nomatch h
  | fuel + 1, cs, rest, v, h => by
    rw [readValue] at h
    split at h
    next hskip =>
      obtain ⟨rfl, rfl⟩ := Prod.mk.inj (Option.some.inj h)
      rw [hskip]
      exact .nullName _
    next hskip =>
      obtain ⟨rfl, rfl⟩ := Prod.mk.inj (Option.some.inj h)
      rw [hskip]
      exact .trueName _
    next hskip =>
      obtain ⟨rfl, rfl⟩ := Prod.mk.inj (Option.some.inj h)
      rw [hskip]
      exact .falseName _
    next hskip =>
      obtain ⟨⟨s, rest'⟩, hs, h⟩ := Option.bind_eq_some_iff.mp h
      obtain ⟨rfl, rfl⟩ := Prod.mk.inj (Option.some.inj h)
      rw [hskip]
      exact .string (stringChars_of_readString _ hs)
    next cs' hskip =>
      rw [hskip]
      split at h
      next hempty =>
        obtain ⟨rfl, rfl⟩ := Prod.mk.inj (Option.some.inj h)
        exact .emptyArray (hempty ▸ spaces_skipSpace cs')
      next =>
        obtain ⟨⟨v, cs₁⟩, hv, h⟩ := Option.bind_eq_some_iff.mp h
        obtain ⟨⟨vs, cs₂⟩, hvs, h⟩ := Option.bind_eq_some_iff.mp h
        obtain ⟨rfl, rfl⟩ := Prod.mk.inj (Option.some.inj h)
        exact .array (spaces_skipSpace cs') (value_of_readValue fuel hv)
          (items_of_readItems fuel hvs)
    next cs' hskip =>
      rw [hskip]
      split at h
      next hempty =>
        obtain ⟨rfl, rfl⟩ := Prod.mk.inj (Option.some.inj h)
        exact .emptyObject (hempty ▸ spaces_skipSpace cs')
      next =>
        obtain ⟨⟨f, cs₁⟩, hf, h⟩ := Option.bind_eq_some_iff.mp h
        obtain ⟨⟨fs, cs₂⟩, hfs, h⟩ := Option.bind_eq_some_iff.mp h
        obtain ⟨rfl, rfl⟩ := Prod.mk.inj (Option.some.inj h)
        exact .object (field_of_readField fuel hf) (fields_of_readFields fuel hfs)
    next =>
      obtain ⟨n, rfl, hcs⟩ := exists_of_readNumber h
      rw [hcs]
      exact .number n rest

theorem items_of_readItems : ∀ (fuel : Nat) {cs rest : List Char} {vs : List Json},
    readItems fuel cs = some (vs, rest) → Items cs vs rest
  | 0, _, _, _, h => by
    rw [readItems] at h
    nomatch h
  | fuel + 1, cs, rest, vs, h => by
    rw [readItems] at h
    split at h
    next hskip =>
      obtain ⟨rfl, rfl⟩ := Prod.mk.inj (Option.some.inj h)
      exact .done (hskip ▸ spaces_skipSpace cs)
    next cs' hskip =>
      obtain ⟨⟨v, cs₁⟩, hv, h⟩ := Option.bind_eq_some_iff.mp h
      obtain ⟨⟨vs, cs₂⟩, hvs, h⟩ := Option.bind_eq_some_iff.mp h
      obtain ⟨rfl, rfl⟩ := Prod.mk.inj (Option.some.inj h)
      exact .more (hskip ▸ spaces_skipSpace cs) (spaces_skipSpace cs') (value_of_readValue fuel hv)
        (items_of_readItems fuel hvs)
    next => nomatch h

theorem field_of_readField : ∀ (fuel : Nat) {cs rest : List Char} {f : String × Json},
    readField fuel cs = some (f, rest) → Field cs f rest
  | 0, _, _, _, h => by
    rw [readField] at h
    nomatch h
  | fuel + 1, cs, rest, f, h => by
    rw [readField] at h
    split at h
    next hskip =>
      obtain ⟨⟨name, cs₁⟩, hname, h⟩ := Option.bind_eq_some_iff.mp h
      dsimp only at h
      split at h
      next cs₂ hcolon =>
        obtain ⟨⟨v, cs₃⟩, hv, h⟩ := Option.bind_eq_some_iff.mp h
        obtain ⟨rfl, rfl⟩ := Prod.mk.inj (Option.some.inj h)
        exact .mk (hskip ▸ spaces_skipSpace cs) (stringChars_of_readString _ hname)
          (hcolon ▸ spaces_skipSpace cs₁) (spaces_skipSpace cs₂) (value_of_readValue fuel hv)
      next => nomatch h
    next => nomatch h

theorem fields_of_readFields : ∀ (fuel : Nat) {cs rest : List Char} {fs : List (String × Json)},
    readFields fuel cs = some (fs, rest) → Fields cs fs rest
  | 0, _, _, _, h => by
    rw [readFields] at h
    nomatch h
  | fuel + 1, cs, rest, fs, h => by
    rw [readFields] at h
    split at h
    next hskip =>
      obtain ⟨rfl, rfl⟩ := Prod.mk.inj (Option.some.inj h)
      exact .done (hskip ▸ spaces_skipSpace cs)
    next cs' hskip =>
      obtain ⟨⟨f, cs₁⟩, hf, h⟩ := Option.bind_eq_some_iff.mp h
      obtain ⟨⟨fs, cs₂⟩, hfs, h⟩ := Option.bind_eq_some_iff.mp h
      obtain ⟨rfl, rfl⟩ := Prod.mk.inj (Option.some.inj h)
      exact .more (hskip ▸ spaces_skipSpace cs) (field_of_readField fuel hf)
        (fields_of_readFields fuel hfs)
    next => nomatch h

end

/-! ## What stands in the text is read -/

-- the fuel that is needed is counted in characters, so the rest has to be shorter

theorem StringChars.length_lt {cs s rest : List Char} (h : StringChars cs s rest) :
    rest.length < cs.length := by
  induction h with
  | done rest => exact Nat.lt_succ_self _
  | more hc _ ih =>
    cases hc <;> simp only [List.length_cons] <;> omega

mutual

theorem Value.length_lt {cs rest : List Char} {v : Json} : Value cs v rest →
    rest.length < cs.length
  | .nullName _ | .trueName _ | .falseName _ => by
    simp only [List.length_cons]
    omega
  | .number n _ => by
    have := Nat.length_toDigits_pos (b := 10) (n := n)
    rw [List.length_append]
    omega
  | .string h => Nat.lt_succ_of_lt h.length_lt
  | .emptyArray h | .emptyObject h => by
    have := h.length_le
    simp only [List.length_cons] at this ⊢
    omega
  | .array hs hv hvs => by
    have := hs.length_le
    have := hv.length_lt
    have := hvs.length_lt
    rw [List.length_cons]
    omega
  | .object hf hfs => by
    have := hf.length_lt
    have := hfs.length_lt
    rw [List.length_cons]
    omega

theorem Items.length_lt {cs rest : List Char} {vs : List Json} : Items cs vs rest →
    rest.length < cs.length
  | .done h => h.length_le
  | .more hcomma hs hv hvs => by
    have := hcomma.length_le
    have := hs.length_le
    have := hv.length_lt
    have := hvs.length_lt
    simp only [List.length_cons] at *
    omega

theorem Field.length_lt {cs rest : List Char} {f : String × Json} : Field cs f rest →
    rest.length < cs.length
  | .mk hquote hname hcolon hs hv => by
    have := hquote.length_le
    have := hname.length_lt
    have := hcolon.length_le
    have := hs.length_le
    have := hv.length_lt
    simp only [List.length_cons] at *
    omega

theorem Fields.length_lt {cs rest : List Char} {fs : List (String × Json)} : Fields cs fs rest →
    rest.length < cs.length
  | .done h => h.length_le
  | .more hcomma hf hfs => by
    have := hcomma.length_le
    have := hf.length_lt
    have := hfs.length_lt
    simp only [List.length_cons] at *
    omega

end

theorem Spaces.skipSpace_eq_cons {c : Char} {cs rest : List Char} (h : Spaces cs (c :: rest))
    (hc : isSpace c = false) : skipSpace cs = c :: rest := by
  rw [h.skipSpace_eq, skipSpace, List.dropWhile_cons_of_neg (by simp [hc])]

/-- No number goes on into white space. -/
theorem Spaces.endsNumber {cs rest : List Char} (h : Spaces cs rest) (hrest : EndsNumber rest) :
    EndsNumber cs := by
  have hspaces : ∀ c ∈ [' ', '\n', '\t', '\r'], Digits.digit? 10 c = none := by
    simp only [List.forall_mem_cons, List.not_mem_nil, false_imp_iff, implies_true, and_true]
    exact ⟨rfl, rfl, rfl, rfl⟩
  induction h with
  | done => exact hrest
  | more hc => rw [EndsNumber, Digits.span, hspaces _ hc]

theorem Items.endsNumber {cs rest : List Char} {vs : List Json} (h : Items cs vs rest) :
    EndsNumber cs := by
  cases h with
  | done h => exact h.endsNumber rfl
  | more hcomma => exact hcomma.endsNumber rfl

theorem Fields.endsNumber {cs rest : List Char} {fs : List (String × Json)}
    (h : Fields cs fs rest) : EndsNumber cs := by
  cases h with
  | done h => exact h.endsNumber rfl
  | more hcomma => exact hcomma.endsNumber rfl

/-- A value opens with a character that is no white space and ends no array. -/
theorem Value.exists_eq_cons {cs rest : List Char} {v : Json} (h : Value cs v rest) :
    ∃ c cs', cs = c :: cs' ∧ isSpace c = false ∧ c ≠ ']' := by
  cases h with
  | number n =>
    obtain ⟨d, cs', hd, hcs⟩ := exists_toDigits_eq_cons n
    exact ⟨_, _, by rw [hcs, List.cons_append], isSpace_digitChar d hd⟩
  | _ => exact ⟨_, _, rfl, rfl, by decide⟩

theorem Field.exists_skipSpace_eq {cs rest : List Char} {f : String × Json}
    (h : Field cs f rest) : ∃ cs', skipSpace cs = '"' :: cs' := by
  cases h with
  | mk hquote => exact ⟨_, hquote.skipSpace_eq_cons rfl⟩

-- by recursion on how the text is made up; the reader takes all the digits that it finds, so
-- no number may go on behind a value
mutual

theorem readValue_of_value : ∀ {cs rest : List Char} {v : Json} (fuel : Nat), Value cs v rest →
    EndsNumber rest → cs.length < fuel → readValue fuel cs = some (v, rest)
  | _, _, _, 0, _, _, h => absurd h (Nat.not_lt_zero _)
  | _, _, _, _ + 1, .nullName _, _, _ => rfl
  | _, _, _, _ + 1, .trueName _, _, _ => rfl
  | _, _, _, _ + 1, .falseName _, _, _ => rfl
  | _, rest, _, fuel + 1, .number n _, hrest, _ => by
    obtain ⟨d, cs, hd, hcs⟩ := exists_toDigits_eq_cons n
    have hread := readNumber_toDigits_append n hrest
    rw [hcs, List.cons_append] at hread ⊢
    rw [readValue_digitChar fuel _ hd, hread]
  | _, _, _, _ + 1, .string h, _, _ => by
    show (readString _).bind _ = _
    rw [readString_of_stringChars h]
    rfl
  | _ :: cs, _, _, _ + 1, .emptyArray h, _, _ => by
    rw [readValue]
    show (match skipSpace cs with
      | ']' :: rest => some (array [], rest)
      | _ => _) = _
    rw [h.skipSpace_eq_cons rfl]
    rfl
  | _, _, _, fuel + 1, .array hs hv hvs, _, hlt => by
    obtain ⟨c, cs', hcs, hspace, hc⟩ := hv.exists_eq_cons
    have hskip := (hcs ▸ hs).skipSpace_eq_cons hspace
    have hle := hs.length_le
    have hlt' := hv.length_lt
    rw [List.length_cons] at hlt
    rw [readValue_bracket hskip hc, readValue_congr hs.skipSpace_eq,
      readValue_of_value fuel hv hvs.endsNumber (by omega), Option.bind_some]
    simp only [readItems_of_items fuel hvs (by omega), Option.bind_some]
  | _ :: cs, _, _, _ + 1, .emptyObject h, _, _ => by
    rw [readValue]
    show (match skipSpace cs with
      | '\x7d' :: rest => some (object [], rest)
      | _ => _) = _
    rw [h.skipSpace_eq_cons rfl]
    rfl
  | _, _, _, fuel + 1, .object hf hfs, _, hlt => by
    obtain ⟨cs', hskip⟩ := hf.exists_skipSpace_eq
    have hlt' := hf.length_lt
    rw [List.length_cons] at hlt
    rw [readValue_brace hskip, readField_of_field fuel hf hfs.endsNumber (by omega),
      Option.bind_some]
    simp only [readFields_of_fields fuel hfs (by omega), Option.bind_some]

theorem readItems_of_items : ∀ {cs rest : List Char} {vs : List Json} (fuel : Nat),
    Items cs vs rest → cs.length < fuel → readItems fuel cs = some (vs, rest)
  | _, _, _, 0, _, h => absurd h (Nat.not_lt_zero _)
  | _, _, _, _ + 1, .done h, _ => by
    rw [readItems, h.skipSpace_eq_cons rfl]
    rfl
  | _, _, _, fuel + 1, .more hcomma hs hv hvs, hlt => by
    have hle := hcomma.length_le
    have hle' := hs.length_le
    have hlt' := hv.length_lt
    rw [List.length_cons] at hle
    rw [readItems, hcomma.skipSpace_eq_cons rfl]
    show (readValue fuel _).bind _ = _
    rw [readValue_congr hs.skipSpace_eq,
      readValue_of_value fuel hv hvs.endsNumber (by omega), Option.bind_some]
    simp only [readItems_of_items fuel hvs (by omega)]
    rfl

theorem readField_of_field : ∀ {cs rest : List Char} {f : String × Json} (fuel : Nat),
    Field cs f rest → EndsNumber rest → cs.length < fuel → readField fuel cs = some (f, rest)
  | _, _, _, 0, _, _, h => absurd h (Nat.not_lt_zero _)
  | _, _, _, fuel + 1, .mk hquote hname hcolon hs hv, hrest, hlt => by
    have hle := hquote.length_le
    have hlt' := hname.length_lt
    have hle' := hcolon.length_le
    have hle'' := hs.length_le
    rw [List.length_cons] at hle hle'
    rw [readField, hquote.skipSpace_eq_cons rfl]
    show (readString _).bind _ = _
    rw [readString_of_stringChars hname, Option.bind_some]
    dsimp only
    rw [hcolon.skipSpace_eq_cons rfl]
    show (readValue fuel _).bind _ = _
    rw [readValue_congr hs.skipSpace_eq, readValue_of_value fuel hv hrest (by omega)]
    rfl

theorem readFields_of_fields : ∀ {cs rest : List Char} {fs : List (String × Json)} (fuel : Nat),
    Fields cs fs rest → cs.length < fuel → readFields fuel cs = some (fs, rest)
  | _, _, _, 0, _, h => absurd h (Nat.not_lt_zero _)
  | _, _, _, _ + 1, .done h, _ => by
    rw [readFields, h.skipSpace_eq_cons rfl]
    rfl
  | _, _, _, fuel + 1, .more hcomma hf hfs, hlt => by
    have hle := hcomma.length_le
    have hlt' := hf.length_lt
    rw [List.length_cons] at hle
    rw [readFields, hcomma.skipSpace_eq_cons rfl]
    show (readField fuel _).bind _ = _
    rw [readField_of_field fuel hf hfs.endsNumber (by omega), Option.bind_some]
    simp only [readFields_of_fields fuel hfs (by omega)]
    rfl

end

end Grammar

open Grammar in
/-- The reader accepts exactly the texts of the grammar, and each is a text of one value. -/
theorem read?_eq_some_iff {text : String} {v : Json} : read? text = some v ↔ IsText text v := by
  constructor
  · intro h
    rw [read?] at h
    split at h
    next v' rest hread =>
      obtain ⟨hend, hv⟩ := Option.ite_none_right_eq_some.mp h
      obtain rfl := Option.some.inj hv
      exact ⟨_, rest, spaces_skipSpace _, value_of_readValue _ hread, hend ▸ spaces_skipSpace rest⟩
    next => cases h
  · rintro ⟨cs, rest, hs, hv, hend⟩
    have hle := hs.length_le
    have hread := readValue_of_value (text.toList.length + 1) hv (hend.endsNumber rfl) (by omega)
    rw [read?, readValue_congr hs.skipSpace_eq, hread]
    exact if_pos hend.skipSpace_eq

/-- The text is read as a value, and by the grammar it is a text of that value and of no
other. -/
structure ReadsAs (text : String) (v : Json) : Prop where
  read : read? text = some v
  only : ∀ w, IsText text w ↔ w = v

/-- The indented form of a value is a text of that value alone. -/
theorem readsAs_render (v : Json) : ReadsAs v.render v where
  read := read?_render v
  only w := by rw [← read?_eq_some_iff, read?_render, Option.some_inj, eq_comm]

end Json

end ProxyHeader
