import ProxyHeader.Settings.Value
import ProxyHeader.Text.Quoted

/-!
# Why settings are refused

Settings fail to load when the file is missing or is no TOML document, when a value
cannot be brought to the type its place asks for, when something that is no table or
list stands where a group of settings is expected, when the form of report is none there
is, and when a path needs a list that is longer than any can be.

A `LoadError` is such a cause, with the value that was found and the place it was found
at. Faults of a group and of the form of report go under one name.
-/

namespace ProxyHeader

namespace Settings

/-- The groups that settings come in. -/
inductive Group where
  | input
  | log
  | output
  deriving Repr, DecidableEq

namespace Group

/-- The name of a group in files and variables. -/
def name : Group → String
  | input => "input"
  | log => "log"
  | output => "output"

/-- The name of a group in messages. -/
def typeName : Group → String
  | input => "struct InputConfig"
  | log => "struct LogConfig"
  | output => "struct OutputConfig"

end Group

/-- Where a setting was found. -/
inductive Place where
  | group (g : Group)
  /-- A named setting of a group that is a table. -/
  | field (g : Group) (name : String)
  /-- A setting of a group that is a list, which has only a position. -/
  | position (g : Group) (index : Nat)
  deriving Repr, DecidableEq

/-- A place as messages write it. -/
def Place.text : Place → String
  | group g => g.name
  | field g name => g.name ++ "." ++ name
  | position g index => g.name ++ "[" ++ Digits.decimal index ++ "]"

/-- What a place asks for. -/
inductive Wanted where
  | text
  | natural
  /-- A natural number, where an integer was found that is none. -/
  | notNegative
  deriving Repr, DecidableEq

/-- What a place asks for as messages name it. -/
def Wanted.name : Wanted → String
  | text => "a string"
  | natural => "an integer"
  | notNegative => "an unsigned 64 bit or less integer"

/-- The reason settings are refused. -/
inductive LoadError where
  | missingFile
  | notToml
  /-- The value cannot be brought to the type asked for. -/
  | wrongType (found : Value) (wanted : Wanted) (place : Place)
  /-- The value is neither a table nor a list. -/
  | notGroup (found : Value) (g : Group)
  /-- There is no form of report of this name. -/
  | unknownFormat (name : String) (place : Place)
  /-- The value does not name a form of report. -/
  | noFormat (place : Place)
  /-- A path needs a list that is longer than any can be. -/
  | noRoom
  deriving Repr

namespace LoadError

/-- The short name of an error. -/
def kind : LoadError → String
  | missingFile => "foreign"
  | notToml => "file_parse"
  | wrongType .. => "type"
  | notGroup .. | unknownFormat .. | noFormat _ => "at"
  | noRoom => "panic"

/-- How a message names a value, given what it calls an integer. -/
def describe (integer : String) : Value → String
  | .nil => "unit value"
  | .bool b => "boolean `" ++ Value.boolText b ++ "`"
  | .int n => integer ++ " `" ++ Value.intText n ++ "`"
  | .float x => "floating point `" ++ x.textWithPoint ++ "`"
  | .text s => "string " ++ Quoted.quote s
  | .array _ => "sequence"
  | .table _ => "map"

/-- How a message ends: where the fault is. -/
def ending (place : Place) : String :=
  " for key `" ++ place.text ++ "`"

/-- The sentence that tells a person what is wrong, where there is one. -/
def message? : LoadError → Option String
  | missingFile | notToml | noRoom => none
  | wrongType found wanted place =>
    some ("invalid type: " ++ describe "64-bit integer" found ++ ", expected " ++ wanted.name ++
      ending place)
  | notGroup found g =>
    some ("invalid type: " ++ describe "integer" found ++ ", expected " ++ g.typeName ++
      ending (.group g))
  | unknownFormat name place =>
    some ("enum OutputFormat does not have variant constructor " ++ name ++ ending place)
  | noFormat place =>
    some ("value of enum OutputFormat should be represented by either string or table with " ++
      "exactly one key" ++ ending place)

end LoadError

end Settings

end ProxyHeader
