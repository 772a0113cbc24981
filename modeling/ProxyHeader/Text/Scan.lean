/-!
# Scanning text

A scanner takes a text from the front: it gives what follows the part it looks for, or
nothing if the text does not begin with it. A part that may be missing is only passed
over.
-/

namespace ProxyHeader

namespace Scan

/-- What follows the character `c`. -/
def after? (c : Char) : List Char → Option (List Char)
  | x :: cs => if x = c then some cs else none
  | [] => none

theorem after?_eq_some_iff {c : Char} {cs rest : List Char} :
    after? c cs = some rest ↔ cs = c :: rest := by
  cases cs with
  | nil => simp [after?]
  | cons x cs => by_cases h : x = c <;> simp [after?, h]

/-- What follows the byte order mark that a text may open with. -/
def afterMark : List Char → List Char
  | '\uFEFF' :: cs => cs
  | cs => cs

end Scan

end ProxyHeader
