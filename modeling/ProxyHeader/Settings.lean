import ProxyHeader.Report
import ProxyHeader.Settings.Environment
import ProxyHeader.Settings.Key
import ProxyHeader.Toml.Document

/-!
# Settings

What can be set is where to listen, how long to wait, what to log and how to report. A
setting is looked for in the environment first, then in a file, and has a default where
neither gives it.

`Settings.load` gathers the values of both sources in one tree, the environment over
the file, and only then brings them to their types: a value that is replaced is never
looked at. `Settings.parse` does so for the text of a document alone.

In which order the names of a source are entered, and in which order settings are read, is
left open: it is up to the `Host`, and may be another one each time. It makes a difference
where two names of a source lead to the same place, or where several settings cannot be read.
-/

namespace ProxyHeader

/-- All settings. -/
structure Settings where
  /-- The address to listen on, not yet read as one. -/
  bindAddress : String
  /-- How many seconds to wait for a header; zero waits for ever. -/
  timeout : Nat
  /-- What to log. -/
  level : String
  /-- How to report. -/
  format : Report.Format
  deriving Repr, DecidableEq

namespace Settings

/-- What is set where nothing is said. -/
def default : Settings :=
  ⟨"0.0.0.0", 0, "warn", .text⟩

/-- How many seconds to wait at most, if there is a limit. -/
def duration? (s : Settings) : Option Nat :=
  if s.timeout = 0 then none else some s.timeout

/-! ## Values of each type -/

/-- A value as text. -/
def readText (place : Place) (v : Value) : Except LoadError String :=
  match v.text? with
  | some s => .ok s
  | none => .error (.wrongType v .text place)

/-- The number that a text says: yes or no in one of several words, or a numeral. -/
def saidNumber? (s : String) : Option Nat :=
  let lower := s.toList.map Char.toLower
  if ["true", "on", "yes"].any (·.toList == lower) then some 1
  else if ["false", "off", "no"].any (·.toList == lower) then some 0
  else Numeral.nat? Numeral.maxNat s.toList

/-- A value as a natural number. -/
def readNatural (place : Place) (v : Value) : Except LoadError Nat :=
  match v with
  | .int n => if 0 ≤ n then .ok n.toNat else .error (.wrongType v .notNegative place)
  | .bool b => .ok (if b then 1 else 0)
  | .float x => .ok (x.toNatClamped Numeral.maxNat)
  | .text s =>
    match saidNumber? s with
    | some n => .ok n
    | none => .error (.wrongType v .natural place)
  | .nil | .array _ | .table _ => .error (.wrongType v .natural place)

/-- A value as a form of report: its name, or a table whose only entry has that name. -/
def readFormat (place : Place) (v : Value) : Except LoadError Report.Format :=
  let named (name : String) : Except LoadError Report.Format :=
    match Report.Format.ofName? name with
    | some format => .ok format
    | none => .error (.unknownFormat name place)
  match v with
  | .text s => named s
  | .table [(name, _)] => named name
  | _ => .error (.noFormat place)

/-! ## Groups -/

/-- The value of a setting of a group with the place it stands at: by name in a table, by
position in a list. -/
def find? (g : Group) (position : Nat) (name : String) (v : Value) : Option (Value × Place) :=
  match v with
  | .array vs => vs[position]?.map (·, .position g position)
  | v => (v.get? name).map (·, .field g name)

/-- Whether a value can be a group. -/
def isGroup : Value → Bool
  | .table _ | .array _ => true
  | _ => false

/-- Brings a setting of a group to its type; one that is not there has its default. -/
def readSetting {α : Type} (read : Place → Value → Except LoadError α) (fallback : α)
    (g : Group) (position : Nat) (name : String) (v : Value) : Except LoadError α :=
  match find? g position name v with
  | some (v, place) => read place v
  | none => .ok fallback

/-- The value of a group, which has to be a table or a list; one that is not there is an
empty table. -/
def readGroup (g : Group) (root : Value) : Except LoadError Value :=
  match root.get? g.name with
  | none => .ok (.table [])
  | some v => if isGroup v then .ok v else .error (.notGroup v g)

/-! ## Keys -/

namespace Key

/-- The type of a setting. -/
abbrev Carrier : Key → Type
  | bindAddress | level => String
  | timeout => Nat
  | format => Report.Format

/-- The value of a setting where nothing is said. -/
def fallback : (k : Key) → k.Carrier
  | bindAddress => default.bindAddress
  | timeout => default.timeout
  | level => default.level
  | format => default.format

/-- Brings a value to the type of a setting. -/
def coerce : (k : Key) → Place → Value → Except LoadError k.Carrier
  | bindAddress | level => readText
  | timeout => readNatural
  | format => readFormat

/-- A setting as a tree gives it. -/
def readIn (k : Key) (root : Value) : Except LoadError k.Carrier :=
  readGroup k.group root >>= readSetting k.coerce k.fallback k.group k.position k.name

end Key

/-- The value of a setting. -/
def get (s : Settings) : (k : Key) → k.Carrier
  | .bindAddress => s.bindAddress
  | .timeout => s.timeout
  | .level => s.level
  | .format => s.format

/-! ## Hosts -/

/-- What loading settings depends on besides their sources. -/
structure Host where
  /-- The order in which the names of a document are entered. -/
  fileOrder : NameOrder
  /-- The order in which the variables are entered. -/
  variableOrder : NameOrder
  /-- The settings that are read first, in this order. -/
  reading : List Key
  /-- How many elements a list can have. -/
  room : Nat

/-- A host that takes everything as it comes and has room for lists of a size that can be
held in memory. -/
def Host.usual : Host :=
  ⟨.asGiven, .asGiven, [], 16777216⟩

/-- All settings, given how each is read. The first that cannot be read is the error. -/
def collect (host : Host) (read : (k : Key) → Except LoadError k.Carrier) :
    Except LoadError Settings := do
  host.reading.forM fun k => discard (read k)
  return ⟨← read .bindAddress, ← read .timeout, ← read .level, ← read .format⟩

/-- Brings all settings in a tree to their types. -/
def ofTree (host : Host) (root : Value) : Except LoadError Settings :=
  collect host (Key.readIn · root)

/-! ## Sources -/

/-- The file that settings are loaded from. -/
inductive File where
  | notGiven
  | missing
  | contents (text : String)
  deriving Repr, DecidableEq

/-- Adds the entries of a source to a tree of settings. -/
def gather (host : Host) (tree : Value) (entries : List (String × Value)) :
    Except LoadError Value :=
  if entries.all fun (key, _) => (Path.ofKey key).fits host.room then .ok (tree.setAll entries)
  else .error .noRoom

/-- The tree of settings in the text of a document. -/
def treeOfText (host : Host) (text : String) : Except LoadError Value :=
  match Toml.Document.parse? text with
  | some d => gather host (.table []) (Entries.inOrder host.fileOrder (Value.fieldsOfToml d))
  | none => .error .notToml

/-- The tree of settings in a file. A byte order mark that the file opens with is not part of
its text, which may open with one of its own. -/
def treeOfFile (host : Host) : File → Except LoadError Value
  | .notGiven => .ok (.table [])
  | .missing => .error .missingFile
  | .contents text => treeOfText host (String.ofList (Scan.afterMark text.toList))

/-- What the variables of an environment set. -/
def entries (host : Host) (environment : List Variable) : List (String × Value) :=
  Entries.inOrder host.variableOrder (Variable.entries environment)

/-- Reads settings from the text of a document alone. -/
def parse (text : String) (host : Host := .usual) : Except LoadError Settings := do
  ofTree host (← treeOfText host text)

/-- Loads settings from a file and the environment. -/
def load (file : File) (environment : List Variable) (host : Host := .usual) :
    Except LoadError Settings := do
  let tree ← treeOfFile host file
  ofTree host (← gather host tree (entries host environment))

end Settings

end ProxyHeader
