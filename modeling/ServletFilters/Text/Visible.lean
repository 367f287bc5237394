/-!
Text as it is shown where control sequences have no effect: the sequences and all other controls
but blanks are dropped.

A sequence begins with an escape character. What belongs to it is decided by a machine that reads
one character after the other. A visible character in plain text begins a run, and a run lasts up
to the next hidden character.
-/

namespace ServletFilters.Text

/-- The part of a control sequence that is being read; `plain` is outside of all sequences. The
`parameter` family belongs to sequences that set modes and styles, the `device` family to those
with a string for the device; a `title` ends with a bell, and a `message` only with a new
sequence or a string terminator. -/
inductive ControlMode where
  | plain
  | escape
  | escapeMark
  | entry
  | parameter
  | parameterMark
  | parameterIgnored
  | deviceEntry
  | deviceParameter
  | deviceMark
  | deviceIgnored
  | deviceString
  | title
  | message
  deriving DecidableEq, Repr

def isMark (c : Char) : Bool := '\x20' ≤ c && c ≤ '\x2f'

def isParameter (c : Char) : Bool := '\x30' ≤ c && c ≤ '\x3f'

/-- A parameter that may only come first. -/
def isLeading (c : Char) : Bool := '\x3c' ≤ c && c ≤ '\x3f'

def isFinal (c : Char) : Bool := '\x40' ≤ c && c ≤ '\x7e'

/-- One of the octets of the character ends a string. -/
def hasTerminator (c : Char) : Bool := (String.utf8EncodeChar c).contains 0x9c

namespace ControlMode

def afterEscape (c : Char) : ControlMode :=
  match c with
  | '[' => entry
  | ']' => title
  | 'P' => deviceEntry
  | 'X' | '^' | '_' => message
  | c =>
    if isMark c then escapeMark
    else if isParameter c || isFinal c then plain
    else escape

/-- Two controls break every sequence off, and an escape character begins a new one. -/
def next (mode : ControlMode) (c : Char) : ControlMode :=
  if c == '\x18' || c == '\x1a' then plain
  else if c == '\x1b' then escape
  else match mode with
    | plain => plain
    | escape => afterEscape c
    | escapeMark => if isParameter c || isFinal c then plain else escapeMark
    | entry =>
      if isMark c then parameterMark
      else if isParameter c then parameter
      else if isFinal c then plain
      else entry
    | parameter =>
      if isLeading c then parameterIgnored
      else if isMark c then parameterMark
      else if isFinal c then plain
      else parameter
    | parameterMark =>
      if isParameter c then parameterIgnored else if isFinal c then plain else parameterMark
    | parameterIgnored => if isFinal c then plain else parameterIgnored
    | deviceEntry =>
      if isMark c then deviceMark
      else if isParameter c then deviceParameter
      else if isFinal c then deviceString
      else deviceEntry
    | deviceParameter =>
      if isLeading c then deviceIgnored
      else if isMark c then deviceMark
      else if isFinal c then deviceString
      else deviceParameter
    | deviceMark =>
      if isParameter c then deviceIgnored else if isFinal c then deviceString else deviceMark
    | deviceIgnored => if hasTerminator c then plain else deviceIgnored
    | deviceString => if hasTerminator c then plain else deviceString
    | title => if c == '\x07' then plain else title
    | message => if hasTerminator c then plain else message

/-- A blank inside such a part still counts as text. -/
def showsBlanks : ControlMode → Bool
  | escape | escapeMark | entry | parameter | parameterMark | parameterIgnored => true
  | _ => false

end ControlMode

def isShownBlank (c : Char) : Bool := c == '\t' || c == '\n' || c == '\x0c' || c == '\r'

def isShown (c : Char) : Bool := isShownBlank c || '\x20' ≤ c && c != '\x7f'

/-- The visible characters, read from a mode. An ASCII character in a run leaves the mode as it
was before the run. -/
def visibleFrom (inRun : Bool) (mode : ControlMode) : List Char → List Char
  | [] => []
  | c :: cs =>
    if inRun || mode == .plain then
      if isShown c then c :: visibleFrom true (if '\x7f' < c then .plain else mode) cs
      else visibleFrom false (mode.next c) cs
    else if mode.showsBlanks && isShownBlank c then c :: visibleFrom true (mode.next c) cs
    else visibleFrom false (mode.next c) cs

def visible (s : String) : String := String.ofList (visibleFrom false .plain s.toList)

/-- The first line, without its line end. -/
def firstLine (s : String) : String :=
  match s.toList.span (· != '\n') with
  | (cs, []) => String.ofList cs
  | (cs, _) =>
    String.ofList (match cs.reverse with
      | '\r' :: rest => rest.reverse
      | _ => cs)

/-- Text between the sequences that set it off from the text around it and end that. -/
def emphasized (s : String) : String := "\x1b[33m" ++ s ++ "\x1b[0m"

end ServletFilters.Text
