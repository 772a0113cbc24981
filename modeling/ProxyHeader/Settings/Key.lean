import ProxyHeader.Settings.Error

/-!
# Keys

A `Settings.Key` is one of the settings, with the group that it belongs to and the name that it
has there. In a group that is a list it has a position instead. A key has its group and name to
itself (`Key.eq_of_name_eq`).
-/

namespace ProxyHeader

namespace Settings

/-- The settings, by name. -/
inductive Key where
  | bindAddress
  | timeout
  | level
  | format
  deriving Repr, DecidableEq

namespace Key

/-- The group that a setting belongs to. -/
def group : Key → Group
  | bindAddress | timeout => .input
  | level => .log
  | format => .output

/-- The name of a setting in its group. -/
def name : Key → String
  | bindAddress => "bind_address"
  | timeout => "timeout"
  | level => "level"
  | format => "format"

/-- The position of a setting in a group that is a list. -/
def position : Key → Nat
  | bindAddress | level | format => 0
  | timeout => 1

/-- The name of a setting behind that of its group. -/
def fullName (k : Key) : String :=
  k.group.name ++ "." ++ k.name

/-- The place of a setting in a group that is a table. -/
def place (k : Key) : Place :=
  .field k.group k.name

/-- All settings. -/
def all : List Key :=
  [bindAddress, timeout, level, format]

theorem mem_all (k : Key) : k ∈ all := by
  cases k <;> decide

/-- A key has its group and name to itself. -/
theorem eq_of_name_eq {k k' : Key} (hgroup : k.group = k'.group) (hname : k.name = k'.name) :
    k = k' := by
  revert hgroup hname
  cases k <;> cases k' <;> decide

end Key

namespace Group

/-- All groups. -/
def all : List Group :=
  [input, log, output]

theorem mem_all (g : Group) : g ∈ all := by
  cases g <;> decide

theorem eq_of_name_eq {g g' : Group} (h : g.name = g'.name) : g = g' := by
  revert h
  cases g <;> cases g' <;> decide

end Group

end Settings

end ProxyHeader
