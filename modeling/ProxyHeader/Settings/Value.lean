import ProxyHeader.Decimal.Shortest
import ProxyHeader.Entries
import ProxyHeader.Text.Digits
import ProxyHeader.Toml.Value

/-!
# Settings before they have types

Settings are gathered in a tree of values before anything is asked of their types, so
that a value of the wrong type does no harm if another source replaces it. `nil` is the
value of a place that was made room for but never filled.

A value counts as text if it has one: a number or boolean is its own name. It counts as
a natural number if it is one, rounds to one, or is a text that says one.
-/

namespace ProxyHeader

namespace Settings

/-- A value somewhere in the tree of settings. -/
inductive Value where
  | nil
  | bool (b : Bool)
  | int (n : Int)
  | float (x : Binary64)
  | text (s : String)
  | array (items : List Value)
  | table (fields : List (String × Value))
  deriving Repr

namespace Value

/-! ## From documents -/

mutual

/-- The value that a document holds. Dates and times are text. -/
def ofToml : Toml.Value → Value
  | .text s => text s
  | .int n => int n
  | .float x => float x
  | .bool b => bool b
  | .moment s => text s
  | .array items => array (itemsOfToml items)
  | .table fields => table (fieldsOfToml fields)

/-- The values that the elements of an array hold. -/
def itemsOfToml : List Toml.Value → List Value
  | [] => []
  | v :: vs => ofToml v :: itemsOfToml vs

/-- The values that the entries of a table hold. -/
def fieldsOfToml : List (String × Toml.Value) → List (String × Value)
  | [] => []
  | (k, v) :: fs => (k, ofToml v) :: fieldsOfToml fs

end

/-! ## Parts -/

/-- The entries of a value, of which only a table has any. -/
def fields : Value → List (String × Value)
  | table fs => fs
  | _ => []

/-- The elements of a value, of which only an array has any. -/
def items : Value → List Value
  | array vs => vs
  | _ => []

/-- The entry with a given name. -/
def get? (k : String) (v : Value) : Option Value :=
  Entries.get? k v.fields

/-! ## Types -/

/-- An integer in decimal. -/
def intText (n : Int) : String :=
  if n < 0 then "-" ++ Digits.decimal n.natAbs else Digits.decimal n.natAbs

/-- A boolean as a word. -/
def boolText (b : Bool) : String :=
  if b then "true" else "false"

/-- The text that a value counts as. -/
def text? : Value → Option String
  | text s => some s
  | bool b => some (boolText b)
  | int n => some (intText n)
  | float x => some x.text
  | nil | array _ | table _ => none

end Value

end Settings

end ProxyHeader
