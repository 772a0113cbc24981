import ProxyHeader.Decimal.Numeral
import ProxyHeader.Report

/-!
# The command line

Arguments are options with a value, two flags that ask for help or the version, and at
most one port. An option has a long name, with the value after an equals sign or in the
next argument, and a letter, with the value in the rest of the argument or in the next
one. After `--` nothing is an option.

Arguments are read from left to right. The first that cannot be understood is an error,
and so is an option that comes twice, but a flag that is met before any error is
answered whatever follows it.
-/

namespace ProxyHeader

namespace CommandLine

/-! ## What can be said -/

/-- The options that take a value. -/
inductive Setting where
  | config
  | format
  | timeout
  | logLevel
  deriving Repr, DecidableEq

/-- The flags, each of which is a request of its own. -/
inductive Flag where
  | help
  | version
  deriving Repr, DecidableEq

/-- What a name stands for. -/
inductive Switch where
  | setting (s : Setting)
  | flag (f : Flag)
  deriving Repr, DecidableEq

/-- What a long name stands for. -/
def Switch.ofName? (name : String) : Option Switch :=
  if name = "config" then some (.setting .config)
  else if name = "format" then some (.setting .format)
  else if name = "timeout" then some (.setting .timeout)
  else if name = "log-level" then some (.setting .logLevel)
  else if name = "help" then some (.flag .help)
  else if name = "version" then some (.flag .version)
  else none

/-- What a letter stands for. -/
def Switch.ofLetter? : Char → Option Switch
  | 'c' => some (.setting .config)
  | 'f' => some (.setting .format)
  | 't' => some (.setting .timeout)
  | 'l' => some (.setting .logLevel)
  | 'h' => some (.flag .help)
  | 'V' => some (.flag .version)
  | _ => none

/-- All that arguments can set. -/
structure Arguments where
  config? : Option String
  format? : Option Report.Format
  timeout? : Option Nat
  logLevel? : Option String
  port? : Option Nat
  deriving Repr, DecidableEq

/-- Nothing set. -/
def Arguments.empty : Arguments :=
  ⟨none, none, none, none, none⟩

/-- What the arguments ask for. -/
inductive Request where
  | run (a : Arguments)
  | flag (f : Flag)
  deriving Repr, DecidableEq

/-- Why arguments are not understood. -/
inductive UsageError where
  | unknown (argument : String)
  | missingValue (s : Setting)
  | badValue (s : Setting) (value : String)
  | badPort (value : String)
  | repeated (s : Setting)
  /-- A flag was given a value. -/
  | flagValue (f : Flag)
  /-- There is a port already. -/
  | secondPort (value : String)
  deriving Repr, DecidableEq

/-! ## Values -/

/-- The largest port. -/
def maxPort : Int := 65535

/-- The port that a text says. -/
def portOf? (s : String) : Option Nat :=
  match Numeral.int? s.toList with
  | some n => if 0 ≤ n ∧ n ≤ maxPort then some n.toNat else none
  | none => none

namespace Arguments

/-- Puts a value that was looked for in its place, which must be free. -/
def fill {α : Type} (s : Setting) (value : String) (old? new? : Option α)
    (put : α → Arguments) : Except UsageError Arguments :=
  match new?, old? with
  | none, _ => .error (.badValue s value)
  | some _, some _ => .error (.repeated s)
  | some new, none => .ok (put new)

/-- Sets what an option says. -/
def set (a : Arguments) (s : Setting) (value : String) : Except UsageError Arguments :=
  match s with
  | .config =>
    fill s value a.config? (if value = "" then none else some value) fun path =>
      { a with config? := some path }
  | .format =>
    fill s value a.format? (Report.Format.ofName? value) fun format =>
      { a with format? := some format }
  | .timeout =>
    fill s value a.timeout? (Numeral.nat? Numeral.maxNat value.toList) fun n =>
      { a with timeout? := some n }
  | .logLevel =>
    fill s value a.logLevel? (some value) fun level =>
      { a with logLevel? := some level }

/-- Sets the port. -/
def setPort (a : Arguments) (value : String) : Except UsageError Arguments :=
  match a.port?, portOf? value with
  | some _, _ => .error (.secondPort value)
  | none, none => .error (.badPort value)
  | none, some n => .ok { a with port? := some n }

end Arguments

/-! ## Arguments -/

/-- What an argument is, before its value is looked at. -/
inductive Shape where
  /-- A port. -/
  | plain (value : String)
  /-- After this argument nothing is an option. -/
  | stop
  /-- An option or flag by its long name, with the value after the equals sign. -/
  | long (name : String) (value? : Option String)
  /-- Letters after a dash. -/
  | letters (cs : List Char)
  deriving Repr, DecidableEq

/-- The shape of an argument. A dash alone is plain. -/
def Shape.of (argument : String) : Shape :=
  match argument.toList with
  | ['-', '-'] => .stop
  | '-' :: '-' :: cs =>
    match cs.span (· != '=') with
    | (name, _ :: value) => .long (String.ofList name) (some (String.ofList value))
    | (name, []) => .long (String.ofList name) none
  | '-' :: c :: cs => .letters (c :: cs)
  | _ => .plain argument

/-- What letters after a dash ask for: a flag, or an option with the value in the rest of
the argument, if it has any. One equals sign before the value does not belong to it. -/
def readLetters (cs : List Char) : Except UsageError (Flag ⊕ Setting × Option String) :=
  match cs with
  | [] => .error (.unknown "-")
  | c :: cs =>
    match Switch.ofLetter? c with
    | none => .error (.unknown (String.ofList ['-', c]))
    | some (.flag f) => .ok (.inl f)
    | some (.setting s) =>
      match cs with
      | [] => .ok (.inr (s, none))
      | '=' :: value => .ok (.inr (s, some (String.ofList value)))
      | value => .ok (.inr (s, some (String.ofList value)))

/-- What a long name asks for. -/
def readLong (name : String) (value? : Option String) :
    Except UsageError (Flag ⊕ Setting × Option String) :=
  match Switch.ofName? name, value? with
  | none, _ => .error (.unknown ("--" ++ name))
  | some (.flag f), none => .ok (.inl f)
  | some (.flag f), some _ => .error (.flagValue f)
  | some (.setting s), value? => .ok (.inr (s, value?))

/-- Arguments after `--`. -/
def readPorts : List String → Arguments → Except UsageError Arguments
  | [], a => .ok a
  | value :: rest, a => (a.setPort value).bind (readPorts rest)

/-- Reads arguments from left to right, given what was set so far and the option that waits
for its value. -/
def read : List String → Option Setting → Arguments → Except UsageError Request
  | [], none, a => .ok (.run a)
  | [], some s, _ => .error (.missingValue s)
  | argument :: rest, waiting, a =>
    match waiting, Shape.of argument with
    | some s, .plain value => (a.set s value).bind (read rest none)
    | some s, _ => .error (.missingValue s)
    | none, .plain value => (a.setPort value).bind (read rest none)
    | none, .stop => (readPorts rest a).map .run
    | none, .long name value? => (readLong name value?).bind fun
      | .inl f => .ok (.flag f)
      | .inr (s, some value) => (a.set s value).bind (read rest none)
      | .inr (s, none) => read rest (some s) a
    | none, .letters cs => (readLetters cs).bind fun
      | .inl f => .ok (.flag f)
      | .inr (s, some value) => (a.set s value).bind (read rest none)
      | .inr (s, none) => read rest (some s) a

/-- What a command line asks for. -/
def parse (arguments : List String) : Except UsageError Request :=
  read arguments none .empty

end CommandLine

end ProxyHeader
