import ProxyHeader.Decimal.Binary64
import ProxyHeader.Text.Digits

/-!
# Reading numerals

Whole numbers and decimal fractions as they are written in settings: a whole number is
an optional sign and decimal digits, a fraction may have a point with digits on one
side of it at least and an exponent, and infinity and not-a-number have names that are
read in either case. The whole text must be used.
-/

namespace ProxyHeader

namespace Numeral

/-- Whether a sign is in front, and what follows it. -/
def sign : List Char → Bool × List Char
  | '-' :: cs => (true, cs)
  | '+' :: cs => (false, cs)
  | cs => (false, cs)

/-- The largest 64-bit natural number. -/
def maxNat : Nat := 18446744073709551615

/-- The largest 64-bit integer. -/
def maxInt : Nat := 9223372036854775807

/-- A run of digits that is the whole text. -/
def digitsOnly? (cs : List Char) : Option Nat :=
  match Digits.span 10 cs with
  | ([], _) => none
  | (ds, []) => some (Digits.value 10 ds)
  | _ => none

/-- A 64-bit integer. -/
def int? (cs : List Char) : Option Int :=
  let (negative, cs) := sign cs
  match digitsOnly? cs with
  | none => none
  | some n =>
    if negative then if n ≤ maxInt + 1 then some (-(n : Int)) else none
    else if n ≤ maxInt then some n else none

/-- A natural number up to `limit`. A plus sign may stand before it, a minus sign may not. -/
def nat? (limit : Nat) (cs : List Char) : Option Nat :=
  let cs := match cs with
    | '+' :: cs => cs
    | cs => cs
  (digitsOnly? cs).filter (· ≤ limit)

/-- The digits after a point, if there is one, and what follows them. -/
def places : List Char → List Nat × List Char
  | '.' :: cs => Digits.span 10 cs
  | cs => ([], cs)

/-- The exponent at the end of a fraction; none written is zero. -/
def exponent? : List Char → Option Int
  | [] => some 0
  | c :: cs =>
    if c = 'e' ∨ c = 'E' then
      let (negative, cs) := sign cs
      (digitsOnly? cs).map fun n => if negative then -(n : Int) else n
    else none

/-- A name read in either case. -/
def named (name : String) (cs : List Char) : Bool :=
  cs.map Char.toLower == name.toList

/-- A double-precision number. -/
def float? (cs : List Char) : Option Binary64 :=
  let (negative, cs) := sign cs
  if named "inf" cs || named "infinity" cs then some (.infinite negative)
  else if named "nan" cs then some .nan
  else
    let (whole, cs) := Digits.span 10 cs
    let (after, cs) := places cs
    if whole.isEmpty && after.isEmpty then none
    else
      (exponent? cs).map fun e =>
        .ofDecimal negative (Digits.value 10 (whole ++ after)) (e - after.length)

end Numeral

end ProxyHeader
