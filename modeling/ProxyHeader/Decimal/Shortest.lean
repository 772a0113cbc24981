import ProxyHeader.Decimal.Binary64

/-!
# The shortest decimal text of a number

Many decimal numbers round to the same double-precision value. The text of a value has
the fewest digits of all of them, and among those with as few it is the nearest to the
value itself, of two equally near the larger.

A decimal grid of some fineness holds a number that rounds to the value only if one of
the value's two neighbours on that grid does, so grids are tried from coarse to fine
and the first with such a neighbour gives the digits. The digits are written without an
exponent, whole numbers without a point.
-/

namespace ProxyHeader

namespace Binary64

/-! ## Digits -/

/-- How many digits stand before the point of `num / den`; zero or less when zeros follow
the point. -/
def decimalMagnitude (num den : Nat) : Int :=
  if den ≤ num then (Nat.toDigits 10 (num / den)).length
  else 1 - (Nat.toDigits 10 ((den + num - 1) / num - 1)).length

/-- The number on the grid of multiples of `10 ^ grid` that rounds to the value
`m * 2 ^ exponent` and is nearest to it, if there is one. -/
def onGrid? (m : Nat) (exponent : Int) (grid : Int) : Option Nat :=
  let up := twoPow exponent.toNat * tenPow (-grid).toNat
  let down := twoPow (-exponent).toNat * tenPow grid.toNat
  -- distance to the ends of the rounding interval, in quarters of a unit of the significand
  let below := if 2 * m = significandLimit ∧ minExponent < exponent then 1 else 2
  let rounds (c : Nat) : Bool :=
    let lo := (4 * m - below) * up
    let hi := (4 * m + 2) * up
    let x := 4 * c * down
    if m % 2 = 0 then decide (lo ≤ x ∧ x ≤ hi) else decide (lo < x ∧ x < hi)
  let c := m * up / down
  let nearer := if 2 * (m * up - c * down) < down then [c, c + 1] else [c + 1, c]
  nearer.find? rounds

/-- The shortest decimal number that rounds to a positive value, as digits and a power of
ten. The coarsest grid tried holds the next power of ten above the value; seventeen digits
are always enough. -/
def shortest (m : Nat) (exponent : Int) : Nat × Int :=
  let magnitude := decimalMagnitude (m * twoPow exponent.toNat) (twoPow (-exponent).toNat)
  let grids := (List.range 18).map fun (k : Nat) => magnitude - (k : Int)
  match grids.findSome? fun grid => (onGrid? m exponent grid).map (·, grid) with
  | some found => found
  | none => (0, 0)

/-! ## Text -/

/-- The digits of `c * 10 ^ grid` with a point where one is needed. -/
def positional (c : Nat) (grid : Int) : List Char :=
  let ds := Nat.toDigits 10 c
  if 0 ≤ grid then ds ++ List.replicate grid.toNat '0'
  else
    let places := (-grid).toNat
    let padded := List.replicate (places + 1 - ds.length) '0' ++ ds
    padded.take (padded.length - places) ++ '.' :: padded.drop (padded.length - places)

/-- The text of a value. -/
def chars : Binary64 → List Char
  | nan => ['N', 'a', 'N']
  | infinite negative => if negative then ['-', 'i', 'n', 'f'] else ['i', 'n', 'f']
  | finite negative m exponent =>
    let digits := if m = 0 then ['0'] else
      let (c, grid) := shortest m exponent
      positional c grid
    if negative then '-' :: digits else digits

/-- The text of a value. -/
def text (x : Binary64) : String :=
  String.ofList x.chars

/-- The text of a value with `.0` after a whole number, which tells it from an integer. -/
def textWithPoint : Binary64 → String
  | finite negative m exponent =>
    let cs := (finite negative m exponent).chars
    String.ofList (if cs.contains '.' then cs else cs ++ ['.', '0'])
  | x => x.text

end Binary64

end ProxyHeader
