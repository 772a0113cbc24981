import ProxyHeader.Decimal.Binary64

/-!
# TOML values

A TOML document is a table: names with values, where a value may be a list or a table
of its own. Dates and times keep the text they are written in, brought to one form.
-/

namespace ProxyHeader

namespace Toml

/-- A value in a TOML document. Tables keep the order of the document. -/
inductive Value where
  | text (s : String)
  | int (n : Int)
  | float (x : Binary64)
  | bool (b : Bool)
  /-- A date, a time of day or both, as text. -/
  | moment (s : String)
  | array (items : List Value)
  | table (fields : List (String × Value))
  deriving Repr

end Toml

end ProxyHeader
