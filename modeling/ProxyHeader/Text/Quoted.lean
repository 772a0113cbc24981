import ProxyHeader.Text.Invisible

/-!
# Quoted text

Messages quote a text that came from outside so that a reader can tell what it holds.
It stands between quotation marks; a quotation mark or backslash in it follows a
backslash, tab, carriage return, newline and NUL are written as letters after a
backslash, and every other character without a picture of its own is written by its
number.
-/

namespace ProxyHeader

namespace Quoted

/-- How a character is written between quotation marks. -/
def escape (c : Char) : List Char :=
  if c = '\x00' then ['\\', '0']
  else if c = '\t' then ['\\', 't']
  else if c = '\r' then ['\\', 'r']
  else if c = '\n' then ['\\', 'n']
  else if c = '"' then ['\\', '"']
  else if c = '\\' then ['\\', '\\']
  else if isInvisible c then
    ['\\', 'u', '\x7b'] ++ Nat.toDigits 16 c.toNat ++ ['\x7d']
  else [c]

/-- A text between quotation marks. -/
def quote (s : String) : String :=
  String.ofList ('"' :: s.toList.flatMap escape ++ ['"'])

end Quoted

end ProxyHeader
