import UsedCss.CommandLine.Program
/-!
# The executable

Plays the command's script on real files and streams, and exits with its status.
Events are told on standard error: warnings always, the rest the more the more often
verbosity is asked for.
-/

open UsedCss UsedCss.Css UsedCss.CommandLine

namespace UsedCss.Main

/-- Whether an event is told at that verbosity. -/
def isTold (verbosity : Nat) (e : Event) : Bool :=
  match e.level with
  | .warn => true
  | .debug => 2 ≤ verbosity
  | .trace => false

/-- The error of a file operation. -/
def fileError : IO.Error → FileError
  | .noFileOrDirectory .. => .notFound
  | e => .other (toString e)

/-- Reads a file as text. -/
def readText (path : String) : IO (Except FileError (List Char)) := do
  try
    let bytes ← IO.FS.readBinFile path
    match String.fromUTF8? bytes with
    | some text => return .ok text.toList
    | none => return .error .notText
  catch e => return .error (fileError e)

/-- Writes text into a file. -/
def writeText (path : String) (text : List Char) : IO (Except FileError Unit) := do
  try
    IO.FS.writeFile path (String.ofList text)
    return .ok ()
  catch e => return .error (fileError e)

/-- Prints a text to a stream. -/
def printText (stream : IO.FS.Stream) (text : String) : IO (Except FileError Unit) := do
  try
    stream.putStr text
    stream.flush
    return .ok ()
  catch e => return .error (fileError e)

/-- Breaks off because a stream has refused a text. -/
def crash (s : CommandLine.Stream) (e : FileError) : IO UInt32 := do
  let _ ← printText (← IO.getStderr) (crashLine s e)
  return 101

/-- Plays a script, and gives its exit status. -/
def play (verbosity : Nat) : Script → IO UInt32
  | .done => return 0
  | .fail reasons => do
    match ← printText (← IO.getStderr) (errorLine reasons) with
    | .ok () => return 1
    | .error e => crash .err e
  | .crash e => crash .out e
  | .print text next => do
    play verbosity (next (← printText (← IO.getStdout) (String.ofList text)))
  | .log events next => do
    for e in events.filter (isTold verbosity) do
      let _ ← printText (← IO.getStderr) s!"[{e.level.name}] {e.message}\n"
    play verbosity next
  | .read path next => do play verbosity (next (← readText path))
  | .write path text next => do play verbosity (next (← writeText path text))

end UsedCss.Main

/-- Runs the command. -/
def main (args : List String) : IO UInt32 := do
  match Arguments.parse args with
  | .error .help =>
    let _ ← UsedCss.Main.printText (← IO.getStdout) (UsageError.message .help ++ "\n")
    return 0
  | .error e =>
    let _ ← UsedCss.Main.printText (← IO.getStderr) (e.message ++ "\n")
    return 2
  | .ok a => UsedCss.Main.play a.verbosity a.script
