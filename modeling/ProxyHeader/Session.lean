import ProxyHeader.Address.Literal
import ProxyHeader.CommandLine
import ProxyHeader.Help
import ProxyHeader.Intake
import ProxyHeader.LogFilter
import ProxyHeader.Settings

/-!
# A run of the program

A run goes through its stages in order: the arguments are read, the settings loaded and
overridden by the arguments, the log filter is set up, the address to listen on is looked
at if a port was given, the bytes are taken in, and the report on them is printed. A stage
that fails ends the run, and nothing of the later stages is looked at.

`Session.plan` takes the stages before any bytes are taken in, and ends the run or names
the source to take them from; `Session.run` adds what that source gives. The status is
zero only for help, for the version, and for a header that is served. It is one for a
failure, and of its own kind for a run that breaks off because a log filter is torn or a
list of settings is longer than any can be.

What a run leaves open is a parameter of it: the host that its settings are loaded on, and
which texts are patterns of a log filter.
-/

namespace ProxyHeader

namespace Session

/-! ## What a run sees and shows -/

/-- Where the bytes come from. -/
inductive Source where
  | standardInput
  /-- The first connection to a port on an address. -/
  | listener (ip : IpAddress) (port : Nat)
  deriving Repr, DecidableEq

/-- All that a run can see before it takes in bytes. -/
structure Surroundings where
  arguments : List String
  environment : List Settings.Variable
  /-- The contents of the file at a path, if there is one. -/
  file? : String → Option String

/-- A complaint that goes past the report. -/
inductive Notice where
  | badSettings (e : Settings.LoadError)
  | badBindAddress (address : String)
  deriving Repr

/-- The line that a complaint opens with. -/
def Notice.text : Notice → String
  | badSettings _ => "ERROR:\tinvalid configuration"
  | badBindAddress address =>
    "ERROR:\tinvalid bind address " ++ Quoted.quote address ++ ": invalid IP address syntax"

/-- What a run shows. -/
structure Outcome where
  status : Nat
  output : String
  notice? : Option Notice
  deriving Repr

/-- A run that ends well with some output. -/
def Outcome.success (output : String) : Outcome :=
  ⟨0, output, none⟩

/-- A run that fails with some output. -/
def Outcome.failure (output : String) : Outcome :=
  ⟨1, output, none⟩

/-- A run that fails with a complaint and no output. -/
def Outcome.complaint (n : Notice) : Outcome :=
  ⟨1, "", some n⟩

/-- A run that breaks off. -/
def Outcome.brokenOff : Outcome :=
  ⟨101, "", none⟩

/-! ## Stages -/

/-- The answer to a flag. -/
def answer (environment : List Settings.Variable) : CommandLine.Flag → String
  | .help => Help.text (Help.isStyled environment)
  | .version => Help.versionText

/-- The file that settings are loaded from. A path that leads to none is tried again with
the ending for TOML. -/
def settingsFile (file? : String → Option String) : Option String → Settings.File
  | none => .notGiven
  | some path =>
    match (file? path).orElse fun _ => file? (path ++ ".toml") with
    | some text => .contents text
    | none => .missing

/-- Settings overridden by arguments. -/
def override (a : CommandLine.Arguments) (s : Settings) : Settings :=
  { s with
    format := a.format?.getD s.format
    timeout := a.timeout?.getD s.timeout
    level := a.logLevel?.getD s.level }

/-- Where the bytes come from: the address to listen on matters only if there is a port. -/
def source (port? : Option Nat) (s : Settings) : Except Notice Source :=
  match port? with
  | none => .ok .standardInput
  | some port =>
    match IpAddress.ofChars? s.bindAddress.toList with
    | some ip => .ok (.listener ip port)
    | none => .error (.badBindAddress s.bindAddress)

/-- The report on what was received. -/
def report (format : Report.Format) : Except IntakeError Bytes → Outcome
  | .error e => .failure ("ERROR:\t" ++ e.message ++ "\n")
  | .ok bytes =>
    ⟨if Info.accepts (Info.read bytes) then 0 else 1, Report.render format bytes, none⟩

/-- What a run does before it takes in bytes: it ends, or goes on to a source. -/
inductive Plan where
  | finish (o : Outcome)
  | takeFrom (s : Source) (format : Report.Format)
  deriving Repr

/-- Whether setting up the log filter has to stop. -/
def logFilterTears (isPattern : String → Bool) (w : Surroundings) (s : Settings) : Bool :=
  LogFilter.tears isPattern (Entries.get? LogFilter.variableName w.environment) s.level

/-- The stages between the arguments and the taking in of bytes. -/
def prepare (host : Settings.Host) (isPattern : String → Bool) (w : Surroundings)
    (a : CommandLine.Arguments) : Plan :=
  match Settings.load (settingsFile w.file? a.config?) w.environment host with
  | .error .noRoom => .finish .brokenOff
  | .error e => .finish (.complaint (.badSettings e))
  | .ok loaded =>
    let settings := override a loaded
    if logFilterTears isPattern w settings then .finish .brokenOff
    else
      match source a.port? settings with
      | .error n => .finish (.complaint n)
      | .ok s => .takeFrom s settings.format

/-- All stages before the taking in of bytes. Unless something else is said, every text is a
pattern. -/
def plan (w : Surroundings) (host : Settings.Host := .usual)
    (isPattern : String → Bool := fun _ => true) : Plan :=
  match CommandLine.parse w.arguments with
  | .error _ => .finish (.failure "")
  | .ok (.flag f) => .finish (.success (answer w.environment f))
  | .ok (.run a) => prepare host isPattern w a

/-- A whole run, given what each source gives when it is read once with room for the longest
header. -/
def run (w : Surroundings) (receive : Source → Except IntakeError Bytes)
    (host : Settings.Host := .usual) (isPattern : String → Bool := fun _ => true) : Outcome :=
  match plan w host isPattern with
  | .finish o => o
  | .takeFrom s format => report format (receive s)

end Session

end ProxyHeader
