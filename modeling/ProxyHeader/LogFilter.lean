import ProxyHeader.Decimal.Numeral
import ProxyHeader.Text.Alphanumeric
import ProxyHeader.Text.Space

/-!
# Log filters

A log filter is a list of directives with commas between them. A directive is a target or
a level; or a target, a span in brackets, or both, with a level after an equals sign if
wanted. A span may list fields in braces, each with a value after an equals sign if wanted;
a value that is no boolean and no number is a pattern. What the parts say is of no concern
here, where nothing is logged, but only whether a filter can be read. Which texts are patterns
is not said here either, but a parameter of all that follows.

White space around a directive does not count. Yet the places where parts begin and end
are counted in bytes without the white space in front, and looked for in the text that
still has it. So white space in front moves all places, and one that then lies inside a
character tears the filter: no such part can be cut out, and who reads it has to stop.

`LogFilter.read` reads a filter that has to be right, `LogFilter.isTorn` is about one in
which directives that are not are passed over, and `LogFilter.tears` about the choice
between a variable and a setting.
-/

namespace ProxyHeader

namespace LogFilter

/-! ## Places in a text -/

/-- What follows the first `n` bytes of a text, unless they end inside a character. -/
def afterBytes? : Nat → List Char → Option (List Char)
  | 0, cs => some cs
  | _ + 1, [] => none
  | n + 1, c :: cs => if c.utf8Size ≤ n + 1 then afterBytes? (n + 1 - c.utf8Size) cs else none

/-- A place after the first character is looked for after it. -/
theorem afterBytes?_cons (c : Char) (n : Nat) (cs : List Char) :
    afterBytes? (c.utf8Size + n) (c :: cs) = afterBytes? n cs := by
  obtain ⟨k, hk⟩ : ∃ k, c.utf8Size + n = k + 1 :=
    ⟨c.utf8Size + n - 1, by have := c.utf8Size_pos; omega⟩
  rw [hk, afterBytes?, if_pos (by omega), ← hk, Nat.add_sub_cancel_left]

/-! ## Directives -/

/-- What keeps a text from being read. -/
inductive Flaw where
  /-- It is no directive. -/
  | refused
  /-- A part of it begins or ends inside a character. -/
  | torn
  deriving Repr, DecidableEq

/-- Where the reader of a directive stands, with the places where open parts begin. -/
inductive Stage where
  | start
  /-- In a target or a level. -/
  | word
  | span (begins : Nat)
  | field (begins : Nat)
  /-- After the fields of a span. -/
  | fields
  /-- After a span. -/
  | spanned
  | level (begins : Nat)
  deriving Repr, DecidableEq

/-- Whether a target may begin with a character. -/
def opensWord (c : Char) : Bool :=
  c == '-' || c == ':' || c == '_' || isAlphanumeric c

/-- Whether a text names a level. -/
def isLevel (cs : List Char) : Bool :=
  ["off", "error", "warn", "info", "debug", "trace"].any (·.toList == cs.map Char.toLower) ||
    (Numeral.nat? 5 cs).isSome

/-- The part of a text between two places. -/
def cut (text : List Char) (begins ends : Nat) : Except Flaw (List Char) :=
  match afterBytes? begins text, afterBytes? ends text with
  | some front, some back => .ok (front.take (front.length - back.length))
  | _, _ => .error .torn

section

variable (isPattern : String → Bool)

/-- Whether a text is the value of a field: a boolean, a number or a pattern. -/
def isFieldValue (cs : List Char) : Bool :=
  ["true", "false"].any (·.toList == cs) || (Numeral.nat? Numeral.maxNat cs).isSome ||
    (Numeral.int? cs).isSome || (Numeral.float? cs).isSome || isPattern (String.ofList cs)

/-- Whether a text is a field. Its value ends where another equals sign stands. -/
def isField (cs : List Char) : Bool :=
  match cs.splitOn '=' with
  | _ :: value :: _ => isFieldValue isPattern value
  | _ => !cs.isEmpty

/-- One character of a directive at its place: the stage after it. -/
def Stage.step (text : List Char) (place : Nat) (c : Char) : Stage → Except Flaw Stage
  | .start =>
    if c = '[' then .ok (.span (place + 1))
    else if opensWord c then .ok .word
    else .error .refused
  | .word =>
    if c = '=' then do discard (cut text 0 place); return .level (place + 1)
    else if c = '[' then do discard (cut text 0 place); return .span (place + 1)
    else .ok .word
  | .span begins =>
    if c = ']' then do discard (cut text begins place); return .spanned
    else if c = '\x7b' then do discard (cut text begins place); return .field (place + 1)
    else .ok (.span begins)
  | .field begins =>
    if c = '\x7d' then do
      if isField isPattern (← cut text begins place) then .ok .fields else .error .refused
    else .ok (.field begins)
  | .fields => if c = ']' then .ok .spanned else .error .refused
  | .spanned => if c = '=' then .ok (.level (place + 1)) else .error .refused
  | .level begins => .ok (.level begins)

/-- Whether a directive may end at a stage. -/
def Stage.finish (text : List Char) : Stage → Except Flaw Unit
  | .word | .spanned => .ok ()
  | .level begins =>
    match afterBytes? begins text with
    | none => .error .torn
    | some rest => if rest.isEmpty || isLevel rest then .ok () else .error .refused
  | .start | .span _ | .field _ | .fields => .error .refused

/-- Reads characters from a place onwards. -/
def scan (text : List Char) : (place : Nat) → Stage → List Char → Except Flaw Stage
  | _, s, [] => .ok s
  | place, s, c :: cs => do
    scan text (place + c.utf8Size) (← s.step isPattern text place c) cs

/-- Reads a directive. -/
def readDirective (text : List Char) : Except Flaw Unit := do
  (← scan isPattern text 0 .start (Space.trim text)).finish text

/-! ## Filters -/

/-- The directives of a filter. -/
def directives (filter : String) : List (List Char) :=
  (filter.toList.splitOn ',').filter (!·.isEmpty)

/-- Reads a filter up to the first flaw. -/
def read (filter : String) : Except Flaw Unit :=
  (directives filter).forM (readDirective isPattern)

/-- Whether one of the directives of a filter is torn. -/
def isTorn (filter : String) : Bool :=
  (directives filter).any fun d =>
    match readDirective isPattern d with
    | .error .torn => true
    | _ => false

/-- The variable that filters logs. -/
def variableName : String := "RUST_LOG"

/-- Whether setting up a filter has to stop. A variable that can be read is the filter; if it is
not set or not right, the setting is, whose directives need not all be right. -/
def tears (given? : Option String) (setting : String) : Bool :=
  match given?.map (read isPattern) with
  | some (.ok ()) => false
  | some (.error .torn) => true
  | some (.error .refused) | none => isTorn isPattern setting

end

end LogFilter

end ProxyHeader
