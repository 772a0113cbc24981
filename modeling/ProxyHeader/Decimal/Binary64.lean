/-!
# Double-precision numbers

A `Binary64` is one of the values of the 64-bit binary format, as exact data: a sign, a
significand below 2^53 and a power of two, or an infinity, or not a number. Arithmetic
on them is arithmetic on natural numbers; nothing is rounded but where a definition
says so.

`ofDecimal` gives the value nearest to a decimal number, of two equally near the one
with the even significand.
-/

namespace ProxyHeader

/-- A value of the 64-bit binary format. -/
inductive Binary64 where
  | nan
  | infinite (negative : Bool)
  /-- The number `significand * 2 ^ exponent` with its sign. -/
  | finite (negative : Bool) (significand : Nat) (exponent : Int)
  deriving Repr, DecidableEq

namespace Binary64

/-! ## The range of the format -/

/-- A power of two. -/
def twoPow (k : Nat) : Nat :=
  Nat.pow 2 k

/-- A power of ten. -/
def tenPow (k : Nat) : Nat :=
  Nat.pow 10 k

/-- Every significand is below this. -/
def significandLimit : Nat := twoPow 53

/-- The exponent of the smallest numbers. -/
def minExponent : Int := -1074

/-- The exponent of the largest numbers. -/
def maxExponent : Int := 971

/-- The two zeros. -/
def zero (negative : Bool) : Binary64 :=
  finite negative 0 minExponent

/-! ## Rounding -/

/-- The whole number nearest to `num / den`, of two the even one. -/
def roundHalfEven (num den : Nat) : Nat :=
  let q := num / den
  let r := num % den
  if 2 * r < den ∨ (2 * r = den ∧ q % 2 = 0) then q else q + 1

/-- The whole number nearest to `num / den`, of two the larger one. -/
def roundHalfUp (num den : Nat) : Nat :=
  (2 * num + den) / (2 * den)

/-- The largest `k` with `2 ^ k ≤ num / den`. -/
def log2Ratio (num den : Nat) : Int :=
  let k : Int := (num.log2 : Int) - (den.log2 : Int)
  if den * twoPow k.toNat ≤ num * twoPow (-k).toNat then k else k - 1

/-- The value nearest to the positive number `num / den`. -/
def ofRatio (negative : Bool) (num den : Nat) : Binary64 :=
  let exponent := max minExponent (log2Ratio num den - 52)
  let m := roundHalfEven (num * twoPow (-exponent).toNat) (den * twoPow exponent.toNat)
  let (m, exponent) := if m = significandLimit then (m / 2, exponent + 1) else (m, exponent)
  if maxExponent < exponent then infinite negative else finite negative m exponent

/-- More than any power of ten that a finite value reaches, up or down. -/
def decimalBound : Int := 400

/-- The value nearest to `digits * 10 ^ exponent`. -/
def ofDecimal (negative : Bool) (digits : Nat) (exponent : Int) : Binary64 :=
  let magnitude : Int := (Nat.toDigits 10 digits).length + exponent
  if digits = 0 then zero negative
  else if decimalBound < magnitude then infinite negative
  else if magnitude < -decimalBound then zero negative
  else ofRatio negative (digits * tenPow exponent.toNat) (tenPow (-exponent).toNat)

/-- The whole number nearest to a value, half away from zero, brought into the range from
zero to `limit`. What is not a number counts as zero. -/
def toNatClamped (limit : Nat) : Binary64 → Nat
  | nan => 0
  | infinite negative => if negative then 0 else limit
  | finite negative m exponent =>
    if negative then 0
    else min limit (roundHalfUp (m * twoPow exponent.toNat) (twoPow (-exponent).toNat))

/-- Whether a value is an infinity. -/
def isInfinite : Binary64 → Bool
  | infinite _ => true
  | _ => false

end Binary64

end ProxyHeader
