import ProxyHeader.Text.Digits

/-!
# JSON values and their indented form

Reports for programs are JSON. A value is written over several lines: every element of
an array and every field of an object starts a line of its own, two columns further in
than the brackets around it, and an empty array or object is written as its brackets.

Strings escape the quotation mark, the backslash and the control characters below the
space, the five that have a letter by that letter; everything else stands as it is.
-/

namespace ProxyHeader

/-- A JSON value. Numbers are natural numbers, and fields keep their order. -/
inductive Json where
  | null
  | bool (b : Bool)
  | number (n : Nat)
  | string (s : String)
  | array (items : List Json)
  | object (fields : List (String × Json))
  deriving Repr

namespace Json

/-- A text or null. -/
def ofText? : Option String → Json
  | some s => string s
  | none => null

/-! ## Strings -/

/-- How a character is written inside a string. -/
def escape (c : Char) : List Char :=
  if c = '"' then ['\\', '"']
  else if c = '\\' then ['\\', '\\']
  else if c = '\x08' then ['\\', 'b']
  else if c = '\t' then ['\\', 't']
  else if c = '\n' then ['\\', 'n']
  else if c = '\x0c' then ['\\', 'f']
  else if c = '\r' then ['\\', 'r']
  else if c.toNat < 0x20 then
    ['\\', 'u', '0', '0', Nat.digitChar (c.toNat / 16), Nat.digitChar (c.toNat % 16)]
  else [c]

/-- A string between quotation marks. -/
def quote (s : String) : List Char :=
  '"' :: s.toList.flatMap escape ++ ['"']

/-! ## Values -/

/-- The end of a line and the indentation of the next one. -/
def newline (depth : Nat) : List Char :=
  '\n' :: List.replicate (2 * depth) ' '

mutual

/-- A value written at some depth of brackets. -/
def chars (depth : Nat) : Json → List Char
  | null => ['n', 'u', 'l', 'l']
  | bool true => ['t', 'r', 'u', 'e']
  | bool false => ['f', 'a', 'l', 's', 'e']
  | number n => Nat.toDigits 10 n
  | string s => quote s
  | array [] => ['[', ']']
  | array (v :: vs) =>
    '[' :: newline (depth + 1) ++ chars (depth + 1) v ++
      (itemChars (depth + 1) vs ++ newline depth ++ [']'])
  | object [] => ['\x7b', '\x7d']
  | object ((k, v) :: fs) =>
    '\x7b' :: newline (depth + 1) ++ quote k ++ [':', ' '] ++ chars (depth + 1) v ++
      (fieldChars (depth + 1) fs ++ newline depth ++ ['\x7d'])

/-- The elements of an array after its first. -/
def itemChars (depth : Nat) : List Json → List Char
  | [] => []
  | v :: vs => ',' :: newline depth ++ chars depth v ++ itemChars depth vs

/-- The fields of an object after its first. -/
def fieldChars (depth : Nat) : List (String × Json) → List Char
  | [] => []
  | (k, v) :: fs =>
    ',' :: newline depth ++ quote k ++ [':', ' '] ++ chars depth v ++ fieldChars depth fs

end

/-- The indented form of a value. -/
def render (v : Json) : String :=
  String.ofList (v.chars 0)

end Json

end ProxyHeader
