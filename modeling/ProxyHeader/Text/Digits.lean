/-!
# Numbers written in digits

Counts and offsets are written in decimal without leading zeros. Bytes in messages are
written as `0x` and two hexadecimal digits, words and dumped bytes as `0x` and as many
digits as they need. Hexadecimal digits are lower case throughout.

Digits are read in any base up to sixteen and in either case: `span` splits off the
digits in front of a text and `value` is the number they write.
-/

namespace ProxyHeader

namespace Digits

/-! ## Writing -/

/-- A number in decimal. -/
def decimal (n : Nat) : String :=
  String.ofList (Nat.toDigits 10 n)

/-- A number as `0x` and hexadecimal digits, the first of them not zero unless it is the
only one. -/
def hex (n : Nat) : String :=
  String.ofList ('0' :: 'x' :: Nat.toDigits 16 n)

/-- A byte as `0x` and two hexadecimal digits. -/
def hexByte (b : UInt8) : String :=
  String.ofList ['0', 'x', Nat.digitChar (b.toNat / 16), Nat.digitChar (b.toNat % 16)]

/-! ## Reading -/

/-- The value of a digit in a base up to sixteen. -/
def digit? (base : Nat) (c : Char) : Option Nat :=
  let value? :=
    if '0' ≤ c ∧ c ≤ '9' then some (c.toNat - '0'.toNat)
    else if 'a' ≤ c ∧ c ≤ 'f' then some (c.toNat - 'a'.toNat + 10)
    else if 'A' ≤ c ∧ c ≤ 'F' then some (c.toNat - 'A'.toNat + 10)
    else none
  value?.filter (· < base)

/-- The digits in front and what follows them. -/
def span (base : Nat) : List Char → List Nat × List Char
  | c :: cs =>
    match digit? base c with
    | some d => (d :: (span base cs).1, (span base cs).2)
    | none => ([], c :: cs)
  | [] => ([], [])

/-- The number that a run of digits writes. -/
def value (base : Nat) (ds : List Nat) : Nat :=
  ds.foldl (fun n d => n * base + d) 0

/-! ## Reading what was written -/

/-- The characters of a numeral are digits of its base. -/
theorem exists_of_mem_toDigits {base n : Nat} {c : Char} (hb : 1 < base)
    (h : c ∈ Nat.toDigits base n) : ∃ d < base, c = Nat.digitChar d := by
  induction n using Nat.strongRecOn with
  | ind n ih =>
    rcases Nat.lt_or_ge n base with hlt | hge
    · rw [Nat.toDigits_of_lt_base hlt] at h
      exact ⟨n, hlt, List.mem_singleton.mp h⟩
    · rw [Nat.toDigits_of_base_le hb hge] at h
      rcases List.mem_append.mp h with h | h
      · exact ih _ (Nat.div_lt_self (by omega) hb) h
      · exact ⟨n % base, Nat.mod_lt _ (by omega), List.mem_singleton.mp h⟩

theorem digit?_digitChar {base d : Nat} (hb : base ≤ 16) (hd : d < base) :
    digit? base (Nat.digitChar d) = some d := by
  have h₁₆ : ∀ d < 16, digit? 16 (Nat.digitChar d) = some d := by decide
  have h := h₁₆ d (by omega)
  unfold digit? at h ⊢
  rw [Option.filter_eq_some_iff] at h ⊢
  exact ⟨h.1, decide_eq_true hd⟩

theorem span_digitChar {base d : Nat} (hb : base ≤ 16) (hd : d < base) (rest : List Char) :
    span base (Nat.digitChar d :: rest) = (d :: (span base rest).1, (span base rest).2) := by
  rw [span, digit?_digitChar hb hd]

/-- A numeral is read as its number. Only that of zero opens with a zero. -/
theorem span_toDigits {base : Nat} (hb : 1 < base) (hb' : base ≤ 16) (n : Nat) :
    ∃ d ds, value base (d :: ds) = n ∧ (d = 0 → ds = []) ∧
      ∀ rest, span base (Nat.toDigits base n ++ rest) =
        (d :: (ds ++ (span base rest).1), (span base rest).2) := by
  induction n using Nat.strongRecOn with
  | ind n ih =>
    rcases Nat.lt_or_ge n base with hlt | hge
    · rw [Nat.toDigits_of_lt_base hlt]
      exact ⟨n, [], by simp [value], fun _ => rfl, span_digitChar hb' hlt⟩
    · obtain ⟨d, ds, hvalue, hzero, hspan⟩ := ih (n / base) (Nat.div_lt_self (by omega) hb)
      refine ⟨d, ds ++ [n % base], ?_, ?_, fun rest => ?_⟩
      · unfold value at hvalue ⊢
        rw [← List.cons_append, List.foldl_append, hvalue]
        exact Nat.div_add_mod' n base
      · intro hd
        have hpos : 0 < n / base := Nat.div_pos hge (by omega)
        have hnone : value base [0] = 0 := by simp [value]
        rw [hzero hd, hd, hnone] at hvalue
        omega
      · rw [Nat.toDigits_of_base_le hb hge, List.append_assoc, hspan, List.singleton_append,
          span_digitChar hb' (Nat.mod_lt _ (by omega)), List.append_assoc,
          List.singleton_append]

/-! ## The characters of a number -/

theorem isAlphanum_digitChar : ∀ d < 16, (Nat.digitChar d).isAlphanum = true := by
  decide

theorem isAlphanum_of_mem_toDigits {base n : Nat} {c : Char} (hb : 1 < base) (hb' : base ≤ 16)
    (h : c ∈ Nat.toDigits base n) : c.isAlphanum = true := by
  obtain ⟨d, hd, rfl⟩ := exists_of_mem_toDigits hb h
  exact isAlphanum_digitChar d (by omega)

theorem isAlphanum_of_mem_decimal {n : Nat} {c : Char} (h : c ∈ (decimal n).toList) :
    c.isAlphanum = true := by
  rw [decimal, String.toList_ofList] at h
  exact isAlphanum_of_mem_toDigits (by decide) (by decide) h

theorem isAlphanum_of_mem_hex {n : Nat} {c : Char} (h : c ∈ (hex n).toList) :
    c.isAlphanum = true := by
  rw [hex, String.toList_ofList] at h
  rcases List.mem_cons.mp h with rfl | h
  · rfl
  rcases List.mem_cons.mp h with rfl | h
  · rfl
  · exact isAlphanum_of_mem_toDigits (by decide) (by decide) h

theorem isAlphanum_of_mem_hexByte {b : UInt8} {c : Char} (h : c ∈ (hexByte b).toList) :
    c.isAlphanum = true := by
  have hb := b.toNat_lt
  rw [hexByte, String.toList_ofList] at h
  rcases List.mem_cons.mp h with rfl | h
  · rfl
  rcases List.mem_cons.mp h with rfl | h
  · rfl
  rcases List.mem_cons.mp h with rfl | h
  · exact isAlphanum_digitChar _ (by omega)
  · rw [List.mem_singleton.mp h]
    exact isAlphanum_digitChar _ (by omega)

/-! ## Injectivity -/

/-- A decimal numeral determines its number. -/
theorem decimal_inj {m n : Nat} (h : decimal m = decimal n) : m = n := by
  have h' : Nat.toDigits 10 m = Nat.toDigits 10 n := String.ofList_injective h
  rw [← Nat.ofDigitChars_ten_toDigits (n := m), h', Nat.ofDigitChars_ten_toDigits]

end Digits

end ProxyHeader
