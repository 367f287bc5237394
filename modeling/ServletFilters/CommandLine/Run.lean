import ServletFilters.CommandLine.Arguments
import ServletFilters.CommandLine.LogFilter
import ServletFilters.CommandLine.Resolution
import ServletFilters.CommandLine.Summary
import ServletFilters.Json.Text

/-!
Running the command line: how the program ends, and what goes to standard output and standard error.

A command first loads its descriptor. From then on log entries are shown, those that the filter in
use lets through, each on a line of its own before the lines of the command.
-/

namespace ServletFilters.CommandLine

/-- How the program ends: as it should, with a failure that the command returns, or because the
arguments name no command. -/
inductive Ending where
  | completed
  | failed (f : Failure)
  | misused (e : UsageError)
  deriving DecidableEq

def Ending.code : Ending → Nat
  | .completed => 0
  | .failed _ => 1
  | .misused _ => 2

structure Outcome where
  ending : Ending
  output : String
  errors : String
  deriving DecidableEq

def Outcome.code (o : Outcome) : Nat := o.ending.code

/-- What a command meets outside: the files by path, the list of log directives in the environment
if there is one, the line that a log entry is written as, and the words in which the reader of
documents refuses a file. -/
structure Surroundings where
  file : String → FileContent
  logRequest : Option String
  line : LogEntry → String
  wording : FileContent → Wording

/-- The entries among some events that the filter shows. -/
def shownEntries (filter : LogFilter) (events : List Event) : List LogEntry :=
  events.filterMap fun
    | .log l => if filter.shows l then some l else none
    | .metric _ => none

def ignoredLine (d : String × DirectiveError) : String :=
  "ignoring `" ++ d.1 ++ "`: " ++ d.2.message

def asLines (lines : List String) : String := String.join (lines.map (· ++ "\n"))

def loaded (config : String) (d : Descriptor) : Event :=
  .log (.descriptorLoaded config d.filters.length d.servlets.length d.mappings.length)

/-- What a command does with its descriptor, once that is loaded: its lines or its failure. A watch
goes on from there, and writes no lines of its own. -/
def act (d : Descriptor) : Command → Reported (Except Failure (List String))
  | .check _ => .silent (.ok (Summary.ofDescriptor d).lines)
  | .resolve _ path servlet type =>
    let resolved := Resolution.ofDescriptor d ⟨path, servlet, type⟩
    ⟨resolved.value.map fun r => [(documentOf r).pretty 0], resolved.events⟩
  | .watch config => ⟨.ok [], [.log (.watcherStarted config)]⟩

def Command.config : Command → String
  | .check config => config
  | .resolve config _ _ _ => config
  | .watch config => config

def Command.run (c : Command) (around : Surroundings) : Outcome :=
  let file := around.file c.config
  match Descriptor.load file with
  | .error e => ⟨.failed (.load e), "", (Failure.load e).text (around.wording file)⟩
  | .ok d =>
    let (filter, ignored) := LogFilter.inUse around.logRequest d.observability.logLevel
    let done := act d c
    let logs := (shownEntries filter (loaded c.config d :: done.events)).map around.line
    let warnings := asLines (ignored.map ignoredLine)
    match done.value with
    | .ok lines => ⟨.completed, asLines (logs ++ lines), warnings⟩
    | .error e => ⟨.failed e, asLines logs, warnings ++ e.text (around.wording file)⟩

def helpText : Option Verb → String
  | none =>
    about ++ "\n\nUsage: filter-chain <COMMAND>\n\nCommands:\n"
      ++ "  check    Validate a deployment descriptor and list its mappings\n"
      ++ "  resolve  Print the filter chain for one dispatch as JSON\n"
      ++ "  watch    Keep the mapping table live, reloading on change, until Ctrl+C\n"
      ++ "  help     Print this message or the help of the given subcommand(s)\n\n"
      ++ "Options:\n  -h, --help  Print help\n"
  | some .check =>
    "Validate a deployment descriptor and list its mappings\n\n"
      ++ "Usage: filter-chain check <CONFIG>\n"
  | some .resolve =>
    "Print the filter chain for one dispatch as JSON\n\n"
      ++ "Usage: filter-chain resolve [OPTIONS] <CONFIG>\n"
  | some .watch =>
    "Keep the mapping table live, reloading on change, until Ctrl+C\n\n"
      ++ "Usage: filter-chain watch <CONFIG>\n"

/-- Only the first line of a usage error is given. -/
def run (args : List String) (around : Surroundings) : Outcome :=
  match parse args with
  | .error e => ⟨.misused e, "", e.shownLine⟩
  | .ok (.help verb) => ⟨.completed, helpText verb, ""⟩
  | .ok (.run command) => command.run around

end ServletFilters.CommandLine
