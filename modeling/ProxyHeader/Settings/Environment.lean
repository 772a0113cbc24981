import ProxyHeader.Settings.Path

/-!
# Settings from the environment

A variable whose name begins with `PP2_`, in either case, is a setting: the rest of its
name in lower case, with a dot for every two underscores, is the path of the setting.

A variable is only text, so its value is guessed: a boolean if it says so in either
case, else a 64-bit integer, else a double-precision number, else the text itself.
-/

namespace ProxyHeader

namespace Settings

/-- What the names of all settings begin with, in capitals and without the underscore
that follows. -/
def variableStem : String := "PP2"

/-- A name and a value, both text. -/
abbrev Variable := String × String

namespace Variable

/-- Puts a dot for every two underscores, from the left. -/
def dotted : List Char → List Char
  | '_' :: '_' :: cs => '.' :: dotted cs
  | c :: cs => c :: dotted cs
  | [] => []

/-- A letter in lower case, as far as names of settings can tell: of the letters outside
ASCII only the kelvin sign has one of ASCII as its lower case. -/
def lowered (c : Char) : Char :=
  if c = '\u212A' then 'k' else c.toLower

/-- The key of the setting that a variable of this name stands for. -/
def key? (name : String) : Option String :=
  let lower := name.toList.map lowered
  let opening := variableStem.toList.map Char.toLower ++ ['_']
  if opening.isPrefixOf lower then some (String.ofList (dotted (lower.drop opening.length)))
  else none

/-- The boolean that a text says in either case. -/
def bool? (cs : List Char) : Option Bool :=
  let lower := cs.map Char.toLower
  if lower == "true".toList then some true
  else if lower == "false".toList then some false
  else none

/-- The value that a text is taken for. -/
def guess (s : String) : Value :=
  let cs := s.toList
  match bool? cs with
  | some b => .bool b
  | none =>
    match Numeral.int? cs with
    | some n => .int n
    | none =>
      match Numeral.float? cs with
      | some x => .float x
      | none => .text s

/-- The setting that a variable stands for, if it is one. -/
def entry? (v : Variable) : Option (String × Value) :=
  (key? v.1).map (·, guess v.2)

/-- What an environment sets. Of several variables for one setting the last counts. -/
def entries (environment : List Variable) : List (String × Value) :=
  Entries.putAll [] (environment.filterMap entry?)

end Variable

end Settings

end ProxyHeader
