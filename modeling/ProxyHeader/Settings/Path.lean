import ProxyHeader.Decimal.Numeral
import ProxyHeader.Settings.Value
import ProxyHeader.Text.Scan

/-!
# Paths into settings

A path names a place in the tree of settings: an entry of the root, then entries of
tables after dots and elements of arrays in brackets, as in `input.timeout` or
`input[1]`. Blanks may stand only inside the brackets.

Setting the value at a path makes room for it: what stands in the way and is no table or
array of the kind the path needs is replaced by an empty one, and an array is filled up
with `nil` as far as the path reaches. A path that needs a longer array than there is room
for does not fit.

A table that is set somewhere does not replace the table there but is merged into it,
entry by entry; any other value replaces what was there.
-/

namespace ProxyHeader

namespace Settings

/-! ## Paths as text -/

/-- One step down the tree. -/
inductive Step where
  | entry (name : String)
  /-- An element counted from the front, or from the back if negative. -/
  | element (index : Int)
  deriving Repr, DecidableEq

/-- A place in the tree of settings. -/
abbrev Path := List Step

namespace Path

/-- Whether a character may stand in a name on a path. -/
def isNamePart (c : Char) : Bool :=
  c.isAlphanum || c == '_' || c == '-'

/-- A name at the front. -/
def name? (cs : List Char) : Option (Step × List Char) :=
  match cs.span isNamePart with
  | ([], _) => none
  | (name, rest) => some (.entry (String.ofList name), rest)

/-- Whether a character may stand on both sides of the number of an element. -/
def isBlank (c : Char) : Bool :=
  c == ' ' || c == '\t'

/-- The number of an element and its closing bracket, with blanks around the number. -/
def index? (cs : List Char) : Option (Step × List Char) := do
  let (negative, cs) := match cs.dropWhile isBlank with
    | '-' :: cs => (true, cs)
    | cs => (false, cs)
  match Digits.span 10 cs with
  | ([], _) => none
  | (ds, cs) =>
    let rest ← Scan.after? ']' (cs.dropWhile isBlank)
    let n : Int := Digits.value 10 ds
    let index := if negative then -n else n
    if index.natAbs ≤ Numeral.maxInt then some (.element index, rest) else none

/-- The steps after the first, of which there are fewer than `limit`. -/
def stepsUpTo : (limit : Nat) → List Char → Option Path
  | 0, _ => none
  | _ + 1, [] => some []
  | limit + 1, '.' :: cs => do
    let (step, cs) ← name? cs
    return step :: (← stepsUpTo limit cs)
  | limit + 1, '[' :: cs => do
    let (step, cs) ← index? cs
    return step :: (← stepsUpTo limit cs)
  | _, _ => none

/-- The path that a text writes. -/
def parse? (s : String) : Option Path := do
  let (first, cs) ← name? s.toList
  return first :: (← stepsUpTo (cs.length + 1) cs)

/-- The path that a key stands for: a key that writes no path is an entry of the root. -/
def ofKey (key : String) : Path :=
  (parse? key).getD [.entry key]

/-- Whether arrays of `room` elements are long enough for a path. -/
def fits (room : Nat) (p : Path) : Bool :=
  p.all fun
    | .entry _ => true
    | .element index => if 0 ≤ index then index.natAbs < room else index.natAbs ≤ room

end Path

/-! ## Setting values -/

namespace Value

/-- The position of an element in an array that has been made long enough for it. -/
def makeRoom (index : Int) (vs : List Value) : List Value × Nat :=
  if 0 ≤ index then
    (vs ++ List.replicate (index.toNat + 1 - vs.length) nil, index.toNat)
  else
    let fromBack := index.natAbs
    (List.replicate (fromBack - vs.length) nil ++ vs, vs.length - fromBack)

/-- Changes the value at a path, making room for it. -/
def modify (f : Value → Value) : Path → Value → Value
  | [], v => f v
  | .entry k :: path, v =>
    table (Entries.put k (modify f path ((v.get? k).getD nil)) v.fields)
  | .element index :: path, v =>
    let (vs, i) := makeRoom index v.items
    array (vs.set i (modify f path (vs[i]?.getD nil)))

mutual

/-- What a place holds after `incoming` is set there. -/
def merge (incoming current : Value) : Value :=
  match incoming with
  | table fs =>
    mergeFields fs (match current with
      | nil => table []
      | current => current)
  | v => v

/-- What a place holds after all the entries are set in it. -/
def mergeFields (entries : List (String × Value)) (current : Value) : Value :=
  match entries with
  | [] => current
  | (k, v) :: fs => mergeFields fs (modify (merge v) [.entry k] current)

end

/-- Sets the value at a path. -/
def set (root : Value) (path : Path) (v : Value) : Value :=
  modify (merge v) path root

/-- Sets values one after the other, each at the path its key stands for. -/
def setAll (root : Value) (entries : List (String × Value)) : Value :=
  entries.foldl (fun root (key, v) => root.set (Path.ofKey key) v) root

end Value

end Settings

end ProxyHeader
