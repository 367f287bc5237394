import ServletFilters.CommandLine.LogLine
import ServletFilters.CommandLine.Run
import ServletFilters.Watch

/-!
The program: files are read and the outcome of the command line is written.
-/

open ServletFilters

/-- The number of an error is given with either sign. -/
def isError (number code : UInt32) : Bool := code == number || code == 0 - number

/-- A directory, a path below a file and a name that is too long are told apart by the number of
the error. -/
def readFile (path : String) : IO FileContent := do
  try
    return .bytes (← IO.FS.readBinFile path)
  catch
    | .inappropriateType _ code _ => return if isError 20 code then .belowFile else .directory
    | .invalidArgument _ code _ => return if isError 36 code then .nameTooLong else .missing
    | _ => return .missing

/-- The words of this reader, which tells the cause without the place in the document. -/
def wording (file : FileContent) : Wording :=
  let cause := match Descriptor.load file with
    | .error (.schema e) => e.message
    | _ => "invalid document"
  ⟨"TOML parse error: " ++ cause, "Error \x7b message: " ++ Text.quoted cause ++ " \x7d"⟩

def isSameContent : FileContent → FileContent → Bool
  | .bytes a, .bytes b => a.data == b.data
  | .missing, .missing | .directory, .directory => true
  | .belowFile, .belowFile | .nameTooLong, .nameTooLong => true
  | _, _ => false

/-- Looks at the file every two seconds, keeps the table live, and passes on what is reported. -/
partial def follow (report : List Event → IO Unit) (last : FileContent) (w : Watch) : IO Unit := do
  IO.sleep 2000
  let content ← readFile w.watcher.path
  if isSameContent content last then
    follow report last w
  else
    let done := w.write content
    report done.events
    follow report content done.value.1

def main (args : List String) : IO UInt32 := do
  let time := toString (← IO.monoMsNow) ++ "ms"
  let styles := ((← IO.getEnv "NO_COLOR").getD "").isEmpty
  let line := CommandLine.logLine styles time
  let logRequest ← IO.getEnv "RUST_LOG"
  let invocation := CommandLine.parse args
  let content ← match invocation with
    | .ok (.run command) => readFile command.config
    | _ => pure .missing
  let outcome := CommandLine.run args ⟨fun _ => content, logRequest, line, wording⟩
  IO.print outcome.output
  IO.eprint outcome.errors
  if let .ok (.run (.watch path)) := invocation then
    if let (.ok d, .ok w) := (Descriptor.load content, Watch.start ⟨path, wording⟩ content) then
      let filter := (CommandLine.LogFilter.inUse logRequest d.observability.logLevel).1
      let report (events : List Event) : IO Unit :=
        (CommandLine.shownEntries filter events).forM fun l => IO.println (line l)
      follow report content w
  return outcome.code.toUInt32
