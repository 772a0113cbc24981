import ProxyHeader.Decimal.Numeral
import ProxyHeader.Text.Scan
import ProxyHeader.Toml.Value

/-!
# Booleans, numbers, dates and times

A number is written in decimal with an optional sign, or as a natural number after
`0x`, `0o` or `0b`; a single underscore may stand between two digits. Integers are
64-bit integers, and a decimal fraction too large for a finite number is refused, while
infinity and not-a-number have names.

A date, a time of day or both are checked for their ranges. They are kept as text in
one form: a `T` between date and time, the digits of a second without trailing zeros,
and an offset with its sign or `Z`.
-/

namespace ProxyHeader

namespace Toml

/-! ## Digits with underscores -/

/-- Digits after a first one, where an underscore may stand before each. -/
def moreDigits? (base : Nat) : List Char → Option (List Nat)
  | [] => some []
  | '_' :: c :: cs => do return (← Digits.digit? base c) :: (← moreDigits? base cs)
  | c :: cs => do return (← Digits.digit? base c) :: (← moreDigits? base cs)

/-- One digit or more, with underscores between them. -/
def digits? (base : Nat) : List Char → Option (List Nat)
  | [] => none
  | c :: cs => do return (← Digits.digit? base c) :: (← moreDigits? base cs)

/-- Decimal digits without a leading zero. -/
def whole? (cs : List Char) : Option (List Nat) :=
  (digits? 10 cs).filter fun ds => ds.length = 1 || ds.head? != some 0

/-! ## Numbers -/

/-- A natural number that has to be a 64-bit integer. -/
def natural? (base : Nat) (cs : List Char) : Option Value :=
  match digits? base cs with
  | some ds => if Digits.value base ds ≤ Numeral.maxInt then some (.int (Digits.value base ds))
    else none
  | none => none

/-- An integer in decimal. -/
def integer? (cs : List Char) : Option Value :=
  let (negative, cs) := Numeral.sign cs
  match whole? cs with
  | some ds =>
    let n := Digits.value 10 ds
    if negative then if n ≤ Numeral.maxInt + 1 then some (.int (-(n : Int))) else none
    else if n ≤ Numeral.maxInt then some (.int n) else none
  | none => none

/-- The exponent of a fraction, with the letter before it. -/
def exponent? : List Char → Option Int
  | [] => some 0
  | _ :: cs =>
    let (negative, cs) := Numeral.sign cs
    (digits? 10 cs).map fun ds =>
      let n : Int := Digits.value 10 ds
      if negative then -n else n

/-- Whether a character begins an exponent. -/
def isExponentMark (c : Char) : Bool :=
  c == 'e' || c == 'E'

/-- A fraction in decimal, which has a point, an exponent or both. -/
def fraction? (cs : List Char) : Option Value := do
  let (negative, cs) := Numeral.sign cs
  let (mantissa, power) := cs.span fun c => !isExponentMark c
  let (before, after) := mantissa.span (· != '.')
  let places ← match after with
    | [] => if power.isEmpty then none else some []
    | _ :: ds => digits? 10 ds
  let ds ← whole? before
  let e ← exponent? power
  let x := Binary64.ofDecimal negative (Digits.value 10 (ds ++ places)) (e - places.length)
  if x.isInfinite then none else some (.float x)

/-- Infinity and not-a-number. -/
def named? (cs : List Char) : Option Value :=
  let (negative, cs) := Numeral.sign cs
  if cs == "inf".toList then some (.float (.infinite negative))
  else if cs == "nan".toList then some (.float .nan)
  else none

/-- A boolean or a number that is the whole of a text. -/
def atom? (cs : List Char) : Option Value :=
  match cs with
  | '0' :: 'x' :: cs => natural? 16 cs
  | '0' :: 'o' :: cs => natural? 8 cs
  | '0' :: 'b' :: cs => natural? 2 cs
  | cs =>
    if cs == "true".toList then some (.bool true)
    else if cs == "false".toList then some (.bool false)
    else ((named? cs).or (integer? cs)).or (fraction? cs)

/-- Whether a character may stand in a boolean or a number. -/
def isAtom (c : Char) : Bool :=
  c.isAlphanum || c == '+' || c == '-' || c == '_' || c == '.'

/-! ## Dates and times -/

/-- The number that exactly `n` digits in front write. -/
def fixed? (n : Nat) (cs : List Char) : Option (Nat × List Char) :=
  match Digits.span 10 (cs.take n) with
  | (ds, []) => if ds.length = n then some (Digits.value 10 ds, cs.drop n) else none
  | _ => none

/-- How many days a month has. -/
def daysInMonth (year month : Nat) : Nat :=
  if month = 2 then
    if year % 4 = 0 ∧ (year % 100 ≠ 0 ∨ year % 400 = 0) then 29 else 28
  else if month = 4 ∨ month = 6 ∨ month = 9 ∨ month = 11 then 30
  else 31

/-- A date at the front, as the text it is written in. -/
def date? (cs : List Char) : Option (List Char × List Char) := do
  let (year, rest) ← fixed? 4 cs
  let (month, rest) ← fixed? 2 (← Scan.after? '-' rest)
  let (day, rest) ← fixed? 2 (← Scan.after? '-' rest)
  if 1 ≤ month ∧ month ≤ 12 ∧ 1 ≤ day ∧ day ≤ daysInMonth year month then
    return (cs.take 10, rest)
  else none

/-- The digits of a second without trailing zeros, of which nine count and one is kept. -/
def trimPlaces (ds : List Char) : List Char :=
  match ((ds.take 9).reverse.dropWhile (· == '0')).reverse with
  | [] => ['0']
  | ds => ds

/-- The digits after the point of a second. -/
def places? : List Char → Option (List Char × List Char)
  | '.' :: cs =>
    match cs.span Char.isDigit with
    | ([], _) => none
    | (ds, rest) => some ('.' :: trimPlaces ds, rest)
  | cs => some ([], cs)

/-- The seconds of a time, which need not be written. -/
def seconds? : List Char → Option (List Char × List Char)
  | ':' :: cs => do
    let (second, rest) ← fixed? 2 cs
    if 60 < second then none
    else
      let (places, rest) ← places? rest
      return (':' :: cs.take 2 ++ places, rest)
  | cs => some ([], cs)

/-- A time of day at the front, as text. -/
def time? (cs : List Char) : Option (List Char × List Char) := do
  let (hour, rest) ← fixed? 2 cs
  let (minute, rest) ← fixed? 2 (← Scan.after? ':' rest)
  if 23 < hour ∨ 59 < minute then none
  else
    let (seconds, rest) ← seconds? rest
    return (cs.take 5 ++ seconds, rest)

/-- The offset of a time from the prime meridian, if one is written, as text. -/
def offset? : List Char → Option (List Char × List Char)
  | 'Z' :: cs | 'z' :: cs => some (['Z'], cs)
  | '+' :: cs => clock '+' cs
  | '-' :: cs => clock '-' cs
  | cs => some ([], cs)
where
  /-- Hours and minutes after a sign. An offset of nothing is written with a plus. -/
  clock (sign : Char) (cs : List Char) : Option (List Char × List Char) := do
    let (hours, rest) ← fixed? 2 cs
    let (minutes, rest) ← fixed? 2 (← Scan.after? ':' rest)
    if 23 < hours ∨ 59 < minutes then none
    else return ((if hours = 0 ∧ minutes = 0 then '+' else sign) :: cs.take 5, rest)

/-- Whether a time follows a date: after a `T`, or after a space and a digit. -/
def timeAfterDate? : List Char → Option (List Char)
  | 'T' :: cs | 't' :: cs => some cs
  | ' ' :: c :: cs => if c.isDigit then some (c :: cs) else none
  | _ => none

/-- A date, a time of day or both at the front, as text. -/
def moment? (cs : List Char) : Option (String × List Char) :=
  match date? cs with
  | none => (time? cs).map fun (time, rest) => (String.ofList time, rest)
  | some (date, rest) =>
    match timeAfterDate? rest with
    | none => some (String.ofList date, rest)
    | some rest => do
      let (time, rest) ← time? rest
      let (offset, rest) ← offset? rest
      return (String.ofList (date ++ 'T' :: time ++ offset), rest)

/-- A value that holds no others at the front, other than quoted text. -/
def scalar? (cs : List Char) : Option (Value × List Char) :=
  match moment? cs with
  | some (s, rest) => some (.moment s, rest)
  | none =>
    let (atom, rest) := cs.span isAtom
    (atom? atom).map (·, rest)

end Toml

end ProxyHeader
