import ServletFilters.CommandLine.Pattern
import ServletFilters.Event

/-!
Which log entries are shown. A list of directives is asked for by the environment, or else made of
the configured level. Each directive gives a verbosity to a component and everything below it, or to
everything, and may do so only for entries with a certain field. The directive for the longest name
decides.
-/

namespace ServletFilters.CommandLine

/-- The field that a directive asks for, and whether it asks for a value too. -/
structure FieldFilter where
  name : String
  hasValue : Bool
  deriving DecidableEq, Repr

/-- A directive without a component is for everything. -/
structure Directive where
  component : Option String
  namesSpan : Bool
  field : Option FieldFilter
  verbosity : Nat
  deriving DecidableEq, Repr

inductive DirectiveError where
  | malformed
  | unknownLevel
  | invalidValue
  deriving DecidableEq, Repr

def DirectiveError.message : DirectiveError → String
  | .malformed => "invalid filter directive"
  | .unknownLevel =>
    "error parsing level filter: expected one of \"off\", \"error\", \"warn\", \"info\", "
      ++ "\"debug\", \"trace\", or a number 0-5"
  | .invalidValue => "invalid field filter"

/-- The most verbose level, which shows everything. -/
def everything : Nat := Level.trace.verbosity

/-- A level is written as a number up to five or as a name in any ASCII case; `off` is zero. -/
def verbosity? (s : List Char) : Option Nat :=
  let digits := match s with
    | '+' :: cs => cs
    | cs => cs
  if !digits.isEmpty && digits.all Text.isDigit then
    let n := Text.decimal digits
    if n ≤ everything then some n else none
  else if s.isEmpty then some Level.error.verbosity
  else
    let name := String.ofList (s.map Char.toUpper)
    if name == "OFF" then some 0
    else ([.error, .warn, .info, .debug, .trace] : List Level).findSome? fun l =>
      if l.name == name then some l.verbosity else none

/-- An empty level shows everything. -/
def levelPart (s : List Char) : Except DirectiveError Nat :=
  if s.isEmpty then .ok everything
  else match verbosity? s with
    | some v => .ok v
    | none => .error .unknownLevel

/-! ### Reading directives -/

/-- A directive is told apart in the trimmed text, and its parts are cut from the whole text at the
same offsets, counted in octets. -/
structure Cursor where
  trimmed : List Char
  whole : List Char

abbrev Scanner := StateT Cursor (Except DirectiveError)

/-- The text before and after an offset in octets, if no character lies across it. -/
def splitAtOctet : Nat → List Char → Option (List Char × List Char)
  | 0, cs => some ([], cs)
  | _ + 1, [] => none
  | n + 1, c :: cs =>
    if c.utf8Size ≤ n + 1 then
      (splitAtOctet (n + 1 - c.utf8Size) cs).map fun (before, after) => (c :: before, after)
    else none

namespace Scanner

/-- The next character of the trimmed text, which stays there. -/
def peek? : Scanner (Option Char) := do return (← get).trimmed.head?

/-- Passes over the characters of the trimmed text that satisfy the condition, and gives what
stands in the whole text at their place. -/
def takeWhile (p : Char → Bool) : Scanner (List Char) := do
  let cursor ← get
  let (part, rest) := cursor.trimmed.span p
  match splitAtOctet (String.ofList part).utf8ByteSize cursor.whole with
  | some (text, later) => set (Cursor.mk rest later); return text
  | none => throw .malformed

/-- Passes over one character, which is an ASCII character. -/
def char (c : Char) : Scanner Unit := do
  let cursor ← get
  match cursor.trimmed, splitAtOctet 1 cursor.whole with
  | next :: rest, some (_, later) =>
    if next == c then set (Cursor.mk rest later) else throw .malformed
  | _, _ => throw .malformed

/-- What stands after the names of a directive: nothing, or a level. -/
def level : Scanner Nat := do
  match ← peek? with
  | none => return everything
  | some _ =>
    char '='
    levelPart (← get).whole

/-- A field is written as its name, perhaps with an equals sign and a value. What follows a second
equals sign is not read. -/
def fieldOf (text : List Char) : Except DirectiveError FieldFilter :=
  match text.splitOn '=' with
  | [] => .error .malformed
  | [name] => if name.isEmpty then .error .malformed else .ok ⟨String.ofList name, false⟩
  | name :: value :: _ =>
    if Pattern.isValue value then .ok ⟨String.ofList name, true⟩ else .error .invalidValue

/-- A span stands in brackets: its name, and perhaps a field in braces. Empty brackets still name a
span, but brackets that hold only a field do not. -/
def span (component : Option String) : Scanner Directive := do
  char '['
  let name ← takeWhile fun c => c != ']' && c != '\x7b'
  match ← peek? with
  | some ']' =>
    char ']'
    return ⟨component, true, none, ← level⟩
  | _ =>
    char '\x7b'
    let field ← fieldOf (← takeWhile (· != '\x7d'))
    char '\x7d'
    char ']'
    return ⟨component, !name.isEmpty, some field, ← level⟩

/-- A directive begins with a letter, a digit or a joining mark, or with the bracket of a span. -/
def startsName (c : Char) : Bool :=
  Text.isAlphanumeric c || c == '-' || c == ':' || c == '_'

/-- A single word is a level if it can be read as one, and otherwise a component. -/
def directive : Scanner Directive := do
  let whole := (← get).whole
  match ← peek? with
  | none => throw .malformed
  | some '[' => span none
  | some c =>
    if !startsName c then throw .malformed
    let name := String.ofList (← takeWhile fun c => c != '=' && c != '[')
    match ← peek? with
    | some '[' => span (some name)
    | some _ => return ⟨some name, false, none, ← level⟩
    | none =>
      match verbosity? whole with
      | some v => return ⟨none, false, none, v⟩
      | none => return ⟨some (String.ofList whole), false, none, everything⟩

end Scanner

namespace Directive

def parse (s : String) : Except DirectiveError Directive :=
  (Scanner.directive.run ⟨Text.trim s.toList, s.toList⟩).map (·.1)

/-- A directive for a named span, or for a value of a field, lets no entry through. -/
def isForEntries (d : Directive) : Bool :=
  !d.namesSpan && !(d.field.any FieldFilter.hasValue)

/-- A directive is for the components whose names begin with its own, and for the entries that have
its field. -/
def covers (d : Directive) (l : LogEntry) : Bool :=
  d.isForEntries
    && d.component.all (fun name => name.toList.isPrefixOf l.component.toList)
    && d.field.all (fun f => l.fieldNames.contains f.name)

def nameLength (d : Directive) : Nat :=
  match d.component with
  | none => 0
  | some name => name.length + 1

/-- The longer name of a component comes after the shorter, a directive with a field after one
without, and fields in the order of their names. -/
def precision (a b : Directive) : Ordering :=
  (compare a.nameLength b.nameLength).then
    (compare (a.field.map FieldFilter.name) (b.field.map FieldFilter.name))

end Directive

/-- Without directives the fallback is the verbosity for everything. -/
structure LogFilter where
  directives : List Directive
  fallback : Nat

namespace LogFilter

/-- The directives of a list, which stand between commas. -/
def texts (list : String) : List String :=
  ((list.toList.splitOn ',').filter fun cs => !cs.isEmpty).map String.ofList

/-- The directives that a configured level stands for. -/
def levelTexts (level : String) : List String := texts ("filter_chain=" ++ level)

/-- Directives that cannot be read are left out, and with none left only errors are shown. -/
def ofLevel (level : String) : LogFilter where
  directives := (levelTexts level).filterMap fun s => (Directive.parse s).toOption
  fallback := Level.error.verbosity

/-- The directives that cannot be read, with the reasons. -/
def ignored (level : String) : List (String × DirectiveError) :=
  (levelTexts level).filterMap fun s =>
    match Directive.parse s with
    | .ok _ => none
    | .error e => some (s, e)

/-- The filter that the environment asks for. It counts if all its directives can be read, and with
none it shows nothing. -/
def ofRequest? (list : String) : Option LogFilter :=
  ((texts list).mapM fun s => (Directive.parse s).toOption).map fun directives => ⟨directives, 0⟩

/-- The filter in use, with the directives that were ignored for it: the environment counts before
the configured level. -/
def inUse (request : Option String) (level : String) :
    LogFilter × List (String × DirectiveError) :=
  match request.bind ofRequest? with
  | some filter => (filter, [])
  | none => (ofLevel level, ignored level)

/-- The most precise directive counts, and the later of two that are equally precise. -/
def verbosityFor (f : LogFilter) (l : LogEntry) : Nat :=
  if f.directives.isEmpty then f.fallback
  else
    let best := (f.directives.filter (·.covers l)).foldl (fun best d =>
      match best with
      | some b => if (b.precision d).isLE then some d else some b
      | none => some d) (none : Option Directive)
    match best with
    | some d => d.verbosity
    | none => 0

def shows (f : LogFilter) (l : LogEntry) : Bool := l.level.verbosity ≤ f.verbosityFor l

end LogFilter

end ServletFilters.CommandLine
