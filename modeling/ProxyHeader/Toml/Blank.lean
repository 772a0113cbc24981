/-!
# Blanks, comments and ends of line

Between the parts of a line only spaces and tabs may stand; between lines, and between
the parts of arrays and inline tables, also ends of line and comments. Around the dots of
a name there are only spaces and tabs, wherever the name stands. A line ends in a newline
or in a carriage return and a newline; a carriage return alone, or any other control
character but the tab, makes the document unreadable, also inside a comment.
-/

namespace ProxyHeader

namespace Toml

/-- Whether a character is a control character other than the tab. -/
def isControl (c : Char) : Bool :=
  (c.toNat < 0x20 && c != '\t') || c.toNat == 0x7F

/-- What follows the spaces and tabs in front. -/
def skipBlanks : List Char → List Char
  | ' ' :: cs => skipBlanks cs
  | '\t' :: cs => skipBlanks cs
  | cs => cs

/-- What follows the blanks, ends of line and comments in front. Nothing if one of the
comments cannot be read. -/
def skipTrivia (inComment : Bool) : List Char → Option (List Char)
  | [] => some []
  | '\n' :: cs => skipTrivia false cs
  | '\r' :: '\n' :: cs => skipTrivia false cs
  | c :: cs =>
    if inComment then if isControl c then none else skipTrivia true cs
    else if c = ' ' ∨ c = '\t' then skipTrivia false cs
    else if c = '#' then skipTrivia true cs
    else some (c :: cs)

/-- What follows a line whose last part has been read: blanks, a comment perhaps, and the
end of the line or of the document. -/
def endOfLine (cs : List Char) : Option (List Char) :=
  let rest := skipBlanks cs
  match rest with
  | [] => some []
  | '\n' :: _ | '\r' :: '\n' :: _ | '#' :: _ => skipTrivia false rest
  | _ => none

end Toml

end ProxyHeader
