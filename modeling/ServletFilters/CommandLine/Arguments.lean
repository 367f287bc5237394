import ServletFilters.Dispatcher
import ServletFilters.Text.Visible

/-!
The arguments of the command line. Each command takes the path of a descriptor, and `resolve` takes
options with a value, which may be attached to the option or follow it.

The value of an option or argument is checked when the next one is reached, or the end; an unknown
argument is refused before that.
-/

namespace ServletFilters.CommandLine

inductive Verb where
  | check
  | resolve
  | watch
  deriving DecidableEq, Repr

def Verb.ofName? : String → Option Verb
  | "check" => some .check
  | "resolve" => some .resolve
  | "watch" => some .watch
  | _ => none

inductive Command where
  | check (config : String)
  | resolve (config : String) (path servlet : Option String) (type : Dispatcher)
  | watch (config : String)
  deriving DecidableEq, Repr

/-- What a value given on the command line is for. -/
inductive Slot where
  | config
  | path
  | servlet
  | dispatcher
  deriving DecidableEq, Repr

def Slot.usage : Slot → String
  | .config => "<CONFIG>"
  | .path => "--path <PATH>"
  | .servlet => "--servlet <SERVLET>"
  | .dispatcher => "--dispatcher <DISPATCHER>"

inductive UsageError where
  | noCommand
  | unknownCommand (name : String)
  | unexpectedArgument (text : String)
  | unexpectedValue (value flag : String)
  | missingRequired
  | valueRequired (slot : Slot)
  | usedTwice (slot : Slot)
  | unknownDispatcher (e : UnknownDispatcher)
  deriving DecidableEq, Repr

def about : String := "Inspect servlet filter mappings and the chains they build"

namespace UsageError
open Text

/-- What an error says. Parts taken from the arguments are set off, but not the one that names an
unknown dispatcher type. -/
def message : UsageError → String
  | .noCommand => about
  | .unknownCommand name => "error: unrecognized subcommand '" ++ emphasized name ++ "'"
  | .unexpectedArgument text => "error: unexpected argument '" ++ emphasized text ++ "' found"
  | .unexpectedValue value flag =>
    "error: unexpected value '" ++ emphasized value ++ "' for '" ++ flag
      ++ "' found; no more were expected"
  | .missingRequired => "error: the following required arguments were not provided:"
  | .valueRequired slot =>
    "error: a value is required for '" ++ slot.usage ++ "' but none was supplied"
  | .usedTwice slot => "error: the argument '" ++ slot.usage ++ "' cannot be used multiple times"
  | .unknownDispatcher e =>
    "error: invalid value '" ++ emphasized e.text ++ "' for '" ++ Slot.dispatcher.usage ++ "': "
      ++ e.message

/-- Every message is followed by advice. -/
def advice : String := "\n\nFor more information, try '" ++ emphasized "--help" ++ "'.\n"

/-- The line that is shown for an error. -/
def shownLine (e : UsageError) : String := firstLine (visible (e.message ++ advice))

end UsageError

inductive Invocation where
  | help (verb : Option Verb)
  | run (command : Command)
  deriving DecidableEq, Repr

/-- How an argument is written. -/
inductive Form where
  | separator
  | long (name : String) (value : Option String)
  | short (flag : Char) (attached : List Char)
  | plain

def Form.of (arg : String) : Form :=
  match arg.toList with
  | ['-', '-'] => .separator
  | '-' :: '-' :: cs =>
    match cs.span (· != '=') with
    | (name, _ :: value) => .long (String.ofList name) (some (String.ofList value))
    | (name, []) => .long (String.ofList name) none
  | '-' :: c :: cs => .short c cs
  | _ => .plain

/-- The values given so far. -/
structure Given where
  config : Option String := none
  path : Option String := none
  servlet : Option String := none
  dispatcher : Option Dispatcher := none

namespace Given

def has (g : Given) : Slot → Bool
  | .config => g.config.isSome
  | .path => g.path.isSome
  | .servlet => g.servlet.isSome
  | .dispatcher => g.dispatcher.isSome

/-- Checks that there is a value, that it is the first of its slot, and what it says. -/
def put (g : Given) (slot : Slot) : Option String → Except UsageError Given
  | none => .error (.valueRequired slot)
  | some value =>
    if g.has slot then .error (.usedTwice slot)
    else match slot with
      | .config =>
        if value.isEmpty then .error (.valueRequired .config)
        else .ok { g with config := some value }
      | .path => .ok { g with path := some value }
      | .servlet => .ok { g with servlet := some value }
      | .dispatcher =>
        match Dispatcher.parse value with
        | .ok t => .ok { g with dispatcher := some t }
        | .error e => .error (.unknownDispatcher e)

end Given

/-- A slot whose value was not checked yet, or has not come yet. -/
structure Pending where
  slot : Slot
  value : Option String

def settle (g : Given) : Option Pending → Except UsageError Given
  | none => .ok g
  | some p => g.put p.slot p.value

def Verb.longOption? : Verb → String → Option Slot
  | .resolve, "path" => some .path
  | .resolve, "servlet" => some .servlet
  | .resolve, "dispatcher" => some .dispatcher
  | _, _ => none

def Verb.shortOption? : Verb → Char → Option Slot
  | .resolve, 'p' => some .path
  | .resolve, 's' => some .servlet
  | .resolve, 'd' => some .dispatcher
  | _, _ => none

/-- The value attached to a one-letter option; an equals sign in front is no part of it. -/
def attachedValue : List Char → Option String
  | [] => none
  | '=' :: cs => some (String.ofList cs)
  | cs => some (String.ofList cs)

/-- Where the reading of a command's arguments stands: whether a separator was met, whether the
path of the descriptor was met, the checked values, and the one still to be checked. -/
structure Progress where
  separated : Bool := false
  positional : Bool := false
  given : Given := {}
  pending : Option Pending := none

namespace Progress

/-- An option with its value attached is checked at once; one without waits for it. -/
def option (p : Progress) (slot : Slot) (attached : Option String) :
    Except UsageError Progress := do
  let given ← settle p.given p.pending
  match attached with
  | some v => pure { p with given := ← given.put slot (some v), pending := none }
  | none => pure { p with given := given, pending := some ⟨slot, none⟩ }

/-- A plain argument is the value of the option before it, or the path of the descriptor. -/
def plain (p : Progress) (arg : String) : Except UsageError Progress :=
  match p.separated, p.pending with
  | false, some ⟨slot, none⟩ => .ok { p with pending := some ⟨slot, some arg⟩ }
  | _, _ =>
    if p.positional then .error (.unexpectedArgument arg)
    else (settle p.given p.pending).map fun given =>
      { p with positional := true, given := given, pending := some ⟨.config, some arg⟩ }

/-- The command, once all arguments were read. -/
def finish (p : Progress) (verb : Verb) : Except UsageError Command := do
  let given ← settle p.given p.pending
  match given.config, verb with
  | none, _ => .error .missingRequired
  | some config, .check => .ok (.check config)
  | some config, .watch => .ok (.watch config)
  | some config, .resolve =>
    .ok (.resolve config given.path given.servlet (given.dispatcher.getD .request))

end Progress

/-- Reads the arguments after the name of a command. -/
def parseFor (verb : Verb) (p : Progress) : List String → Except UsageError Invocation
  | [] => (p.finish verb).map .run
  | arg :: rest =>
    if p.separated then do parseFor verb (← p.plain arg) rest
    else match Form.of arg with
      | .separator => parseFor verb { p with separated := true } rest
      | .plain => do parseFor verb (← p.plain arg) rest
      | .long "help" none => (settle p.given p.pending).map fun _ => .help (some verb)
      | .long "help" (some v) => .error (.unexpectedValue v "--help")
      | .long name value =>
        match verb.longOption? name with
        | some slot => do parseFor verb (← p.option slot value) rest
        | none => .error (.unexpectedArgument ("--" ++ name))
      | .short 'h' _ => (settle p.given p.pending).map fun _ => .help (some verb)
      | .short flag attached =>
        match verb.shortOption? flag with
        | some slot => do parseFor verb (← p.option slot (attachedValue attached)) rest
        | none => .error (.unexpectedArgument ("-" ++ String.singleton flag))

/-- What help was asked for. -/
def parseHelp : List String → Except UsageError Invocation
  | [] => .ok (.help none)
  | name :: rest =>
    match Verb.ofName? name, rest with
    | some verb, [] => .ok (.help (some verb))
    | some _, extra :: _ => .error (.unknownCommand extra)
    | none, [] => if name == "help" then .ok (.help none) else .error (.unknownCommand name)
    | none, extra :: _ => .error (.unknownCommand (if name == "help" then extra else name))

/-- Reads all arguments, the name of the command first. -/
def parseAll (separated : Bool) : List String → Except UsageError Invocation
  | [] => .error .noCommand
  | arg :: rest =>
    match Verb.ofName? arg, separated with
    | some verb, false => parseFor verb {} rest
    | some _, true => .error (.unexpectedArgument arg)
    | none, true =>
      .error (if arg == "help" then .unexpectedArgument arg else .unknownCommand arg)
    | none, false =>
      if arg == "help" then parseHelp rest
      else match Form.of arg with
        | .separator => parseAll true rest
        | .plain => .error (.unknownCommand arg)
        | .long "help" none => .ok (.help none)
        | .long "help" (some v) => .error (.unexpectedValue v "--help")
        | .long name _ => .error (.unexpectedArgument ("--" ++ name))
        | .short 'h' _ => .ok (.help none)
        | .short flag _ => .error (.unexpectedArgument ("-" ++ String.singleton flag))

def parse (args : List String) : Except UsageError Invocation := parseAll false args

end ServletFilters.CommandLine
