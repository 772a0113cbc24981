import ProxyHeader.Session

/-!
# The program

The outermost layer: it gathers arguments, environment and files, takes in bytes from
standard input, and prints what the run shows. Everything is decided by the pure
functions of `Session`.

Connections are not listened for here; a run that would have to ends in a failure that
says so.
-/

namespace ProxyHeader

namespace Program

/-- The variables in a block of `name=value` texts that each end in a zero byte. A text that
is not valid is passed over. -/
def ofBlock (block : Bytes) : List Settings.Variable :=
  (block.splitOn 0).filterMap fun entry => do
    let cs := (← Utf8.decode? entry).toList
    let (name, rest) := cs.span (· != '=')
    match rest with
    | _ :: value => return (String.ofList name, String.ofList value)
    | [] => none

/-- The variables of this process. -/
def environment : IO (List Settings.Variable) := do
  try
    let block ← IO.FS.readBinFile "/proc/self/environ"
    return ofBlock block.toList
  catch _ => return []

/-- The contents of the file at a path, if it can be read. -/
def contents? (path : String) : IO (Option String) := do
  try
    return some (← IO.FS.readFile path)
  catch _ => return none

/-- The files that a run may look at. -/
def files (arguments : List String) : IO (String → Option String) := do
  match CommandLine.parse arguments with
  | .ok (.run ⟨some path, _, _, _, _⟩) =>
    let exact ← contents? path
    let completed ← contents? (path ++ ".toml")
    return fun p =>
      if p = path then exact else if p = path ++ ".toml" then completed else none
  | _ => return fun _ => none

/-- What a source gives in one read. -/
def receive : Session.Source → IO (Except IntakeError Bytes)
  | .standardInput => do
    try
      let bytes ← (← IO.getStdin).read (USize.ofNat maxHeaderLength)
      return .ok bytes.toList
    catch e => return .error (.failed (toString e))
  | .listener _ _ => return .error (.failed "listening is not supported")

/-- Prints what a run shows and gives its status. -/
def present (o : Session.Outcome) : IO UInt32 := do
  IO.print o.output
  (← IO.getStdout).flush
  if let some n := o.notice? then
    IO.eprintln n.text
  return UInt32.ofNat o.status

end Program

end ProxyHeader

/-- Runs the program. -/
def main (arguments : List String) : IO UInt32 := do
  let environment ← ProxyHeader.Program.environment
  let file? ← ProxyHeader.Program.files arguments
  match ProxyHeader.Session.plan ⟨arguments, environment, file?⟩ with
  | .finish o => ProxyHeader.Program.present o
  | .takeFrom s format =>
    let received ← ProxyHeader.Program.receive s
    ProxyHeader.Program.present (ProxyHeader.Session.report format received)
