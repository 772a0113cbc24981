import ProxyHeader.Text.Digits
import ProxyHeader.Toml.Blank

/-!
# Quoted text in TOML

Text stands between double quotes, where a backslash begins an escape, or between single
quotes, where every character stands for itself. Three quotes of either kind open text
that may run over several lines. A line end right after them does not count; any other
belongs to the text as it is written, with its carriage return if it has one. One or two
quotes may stand inside or right before the closing three, and between double quotes a
backslash at the end of a line joins it to the next text, whatever blank lines lie
between.

Each reader takes what follows the opening quotes and gives the text with what follows
the closing ones.
-/

namespace ProxyHeader

namespace Toml

/-! ## Escapes -/

/-- The character that a letter stands for after a backslash. -/
def escaped? : Char → Option Char
  | 'b' => some '\x08'
  | 't' => some '\t'
  | 'n' => some '\n'
  | 'f' => some '\x0c'
  | 'r' => some '\r'
  | 'e' => some '\x1b'
  | '"' => some '"'
  | '\\' => some '\\'
  | _ => none

/-- The character whose number is written in hexadecimal. -/
def numbered? (cs : List Char) : Option Char :=
  match Digits.span 16 cs with
  | (ds, []) =>
    let n := Digits.value 16 ds
    if n.isValidChar then some (Char.ofNat n) else none
  | _ => none

/-- Puts a character before the text read. -/
def push (c : Char) (read : Option (List Char × List Char)) : Option (List Char × List Char) :=
  read.map fun (text, rest) => (c :: text, rest)

/-! ## One line -/

/-- Text between double quotes. -/
def basic : List Char → Option (List Char × List Char)
  | [] => none
  | '"' :: cs => some ([], cs)
  | '\\' :: 'x' :: a :: b :: cs => (numbered? [a, b]).bind fun c => push c (basic cs)
  | '\\' :: 'u' :: a :: b :: c :: d :: cs =>
    (numbered? [a, b, c, d]).bind fun c => push c (basic cs)
  | '\\' :: 'U' :: a :: b :: c :: d :: e :: f :: g :: h :: cs =>
    (numbered? [a, b, c, d, e, f, g, h]).bind fun c => push c (basic cs)
  | '\\' :: c :: cs => (escaped? c).bind fun c => push c (basic cs)
  | c :: cs => if isControl c || c == '\\' then none else push c (basic cs)

/-- Text between single quotes. -/
def literal : List Char → Option (List Char × List Char)
  | [] => none
  | '\x27' :: cs => some ([], cs)
  | c :: cs => if isControl c then none else push c (literal cs)

/-! ## Several lines -/

/-- What follows a line end right after the opening quotes. -/
def skipFirstNewline : List Char → List Char
  | '\n' :: cs => cs
  | '\r' :: '\n' :: cs => cs
  | cs => cs

/-- Where the reader of a text over several lines stands. -/
inductive Join where
  /-- In the text. -/
  | no
  /-- After a backslash and blanks, with the end of the line still to come. -/
  | pending
  /-- After the end of a line that ended in a backslash. -/
  | joined
  deriving DecidableEq

/-- Text between three double quotes. -/
def basicLines : Join → List Char → Option (List Char × List Char)
  | _, [] => none
  | .pending, ' ' :: cs => basicLines .pending cs
  | .pending, '\t' :: cs => basicLines .pending cs
  | .pending, '\n' :: cs => basicLines .joined cs
  | .pending, '\r' :: '\n' :: cs => basicLines .joined cs
  | .pending, _ :: _ => none
  | .joined, ' ' :: cs => basicLines .joined cs
  | .joined, '\t' :: cs => basicLines .joined cs
  | .joined, '\n' :: cs => basicLines .joined cs
  | .joined, '\r' :: '\n' :: cs => basicLines .joined cs
  | _, '"' :: '"' :: '"' :: '"' :: '"' :: cs => some (['"', '"'], cs)
  | _, '"' :: '"' :: '"' :: '"' :: cs => some (['"'], cs)
  | _, '"' :: '"' :: '"' :: cs => some ([], cs)
  | _, '\\' :: ' ' :: cs => basicLines .pending cs
  | _, '\\' :: '\t' :: cs => basicLines .pending cs
  | _, '\\' :: '\n' :: cs => basicLines .joined cs
  | _, '\\' :: '\r' :: '\n' :: cs => basicLines .joined cs
  | _, '\\' :: 'x' :: a :: b :: cs => (numbered? [a, b]).bind fun c => push c (basicLines .no cs)
  | _, '\\' :: 'u' :: a :: b :: c :: d :: cs =>
    (numbered? [a, b, c, d]).bind fun c => push c (basicLines .no cs)
  | _, '\\' :: 'U' :: a :: b :: c :: d :: e :: f :: g :: h :: cs =>
    (numbered? [a, b, c, d, e, f, g, h]).bind fun c => push c (basicLines .no cs)
  | _, '\\' :: c :: cs => (escaped? c).bind fun c => push c (basicLines .no cs)
  | _, '\n' :: cs => push '\n' (basicLines .no cs)
  | _, '\r' :: '\n' :: cs => push '\r' (push '\n' (basicLines .no cs))
  | _, c :: cs => if isControl c || c == '\\' then none else push c (basicLines .no cs)

/-- Text between three single quotes. -/
def literalLines : List Char → Option (List Char × List Char)
  | [] => none
  | '\x27' :: '\x27' :: '\x27' :: '\x27' :: '\x27' :: cs => some (['\x27', '\x27'], cs)
  | '\x27' :: '\x27' :: '\x27' :: '\x27' :: cs => some (['\x27'], cs)
  | '\x27' :: '\x27' :: '\x27' :: cs => some ([], cs)
  | '\n' :: cs => push '\n' (literalLines cs)
  | '\r' :: '\n' :: cs => push '\r' (push '\n' (literalLines cs))
  | c :: cs => if isControl c then none else push c (literalLines cs)

/-! ## Text and names -/

/-- A quoted text of any kind at the front. -/
def quoted : List Char → Option (String × List Char)
  | '"' :: '"' :: '"' :: cs => (basicLines .no (skipFirstNewline cs)).map toText
  | '"' :: cs => (basic cs).map toText
  | '\x27' :: '\x27' :: '\x27' :: cs => (literalLines (skipFirstNewline cs)).map toText
  | '\x27' :: cs => (literal cs).map toText
  | _ => none
where
  /-- The text as a string. -/
  toText (read : List Char × List Char) : String × List Char :=
    (String.ofList read.1, read.2)

/-- Whether a character may stand in a name without quotes. -/
def isBare (c : Char) : Bool :=
  c.isAlphanum || c == '_' || c == '-'

/-- One name, bare or in quotes. -/
def name : List Char → Option (String × List Char)
  | '"' :: cs => (basic cs).map quoted.toText
  | '\x27' :: cs => (literal cs).map quoted.toText
  | cs =>
    match cs.span isBare with
    | ([], _) => none
    | (bare, rest) => some (String.ofList bare, rest)

/-- Names joined by dots, with blanks around them; `limit` bounds how many. -/
def namesUpTo : (limit : Nat) → List Char → Option (List String × List Char)
  | 0, _ => none
  | limit + 1, cs => do
    let (first, cs) ← name (skipBlanks cs)
    match skipBlanks cs with
    | '.' :: cs =>
      let (others, cs) ← namesUpTo limit cs
      return (first :: others, cs)
    | cs => return ([first], cs)

/-- How many names dots may join. -/
def joinLimit : Nat := 80

/-- Names joined by dots. -/
def names (cs : List Char) : Option (List String × List Char) :=
  namesUpTo joinLimit cs

end Toml

end ProxyHeader
