import TypedBundle.Command.Arguments

/-!
# The program

The commands on the machine at hand: its files, its standard streams, and an exit code of zero
for success, one for a command that failed and two for a command line that makes no sense.
-/

namespace TypedBundle

/-- Whether the action ends without an error. -/
def succeeds (action : IO Unit) : IO Bool := do
  match ← action.toBaseIO with
  | .ok _ => return true
  | .error _ => return false

/-- The commands' view of the machine at hand. Reports of the level and above go to standard
error. -/
def hostSystem (level : Level) (sink : IO.Ref Sink) : System IO where
  manifest? := Manifest.ofToml?
  read path := do
    match ← (IO.FS.readFile path).toBaseIO with
    | .ok text => return some text
    | .error _ => return none
  makeDirectories path := succeeds (unless path.isEmpty do IO.FS.createDirAll path)
  write path text := succeeds (IO.FS.writeFile path text)
  print text := IO.print text
  report es := do
    for e in es.filter fun e => Sink.isEnabled { threshold := level } e.severity.level do
      IO.eprintln e.diagnostic.line
      sink.modify (·.observe e)
  warningCount := return (← sink.get).count .warn

/-- Does what a command line asks for and gives the exit code. -/
def execute (words : List String) : IO UInt32 := do
  match Invocation.ofWords words with
  | .error e =>
    IO.eprintln ("error: " ++ e.message ++ "\n\n" ++ Invocation.usage)
    return 2
  | .ok invocation =>
    let sink ← IO.mkRef ({} : Sink)
    match ← (invocation.request.run (hostSystem invocation.logLevel sink)).run with
    | .ok _ => return 0
    | .error message =>
      IO.eprintln ("Error: " ++ message)
      return 1

end TypedBundle

/-- Runs the program on its command line. -/
def main (args : List String) : IO UInt32 := TypedBundle.execute args
