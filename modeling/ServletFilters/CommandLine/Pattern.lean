import ServletFilters.CommandLine.Pattern.Bracketed
import ServletFilters.Text.Alphanumeric

/-!
The patterns that a log directive may give for the value of a field: regular expressions. Nothing
is ever compared with them, since they are for spans only, but a directive is ignored when its
pattern is not well formed or is nested too deep.

No closing brace can stand in a pattern, so every form with braces is refused.
-/

namespace ServletFilters.CommandLine.Pattern
open Reader Text

/-- The flags as they are written, with those after a hyphen to be cleared. -/
def Style.set? (style : Style) (flags : List Char) : Option Style :=
  let (on, off) := flags.span (· != '-')
  let named := on ++ off.drop 1
  let flag (old : Bool) (c : Char) : Bool := on.contains c || old && !off.contains c
  if named.all "imsUuRx".toList.contains && named.eraseDups == named && off != ['-'] then
    some ⟨flag style.unicode 'u', flag style.caseless 'i', flag style.spaced 'x'⟩
  else none

/-- The inside of a group, or the whole pattern: the flags in force, the heights of the finished
alternatives, and those of the parts after them, the last part first. -/
structure Inside where
  style : Style := {}
  alternatives : List Nat := []
  parts : List Nat := []

def Inside.height (g : Inside) : Nat := joined (joined g.parts :: g.alternatives)

/-- Where the reading of a pattern stands: the group that is being read, those around it, the names
of groups so far, and whether there is something to repeat. -/
structure Progress where
  inside : Inside := {}
  around : List Inside := []
  names : List (List Char) := []
  repeatable : Bool := false

namespace Progress

/-- A part that can be repeated is added. -/
def add (p : Progress) (height : Nat) : Progress :=
  { p with inside := { p.inside with parts := height :: p.inside.parts }, repeatable := true }

/-- A group is entered with the flags that hold in it. -/
def enter (p : Progress) (style : Style) : Progress :=
  { p with inside := ⟨style, [], []⟩, around := p.inside :: p.around, repeatable := false }

/-- The innermost group becomes a part of the one around it, whose flags hold again. -/
def leave? (p : Progress) : Option Progress :=
  match p.around with
  | outer :: around => some ({ p with inside := outer, around := around }.add (p.inside.height + 1))
  | [] => none

/-- Flags are a part too, but none that can be repeated. -/
def setStyle (p : Progress) (style : Style) : Progress :=
  { p with inside := ⟨style, p.inside.alternatives, 0 :: p.inside.parts⟩, repeatable := false }

def nextAlternative (p : Progress) : Progress :=
  { p with
    inside := ⟨p.inside.style, joined p.inside.parts :: p.inside.alternatives, []⟩
    repeatable := false }

/-- The last part is repeated. -/
def repeat? (p : Progress) : Option Progress :=
  match p.repeatable, p.inside.parts with
  | true, last :: parts =>
    some { p with inside := { p.inside with parts := (last + 1) :: parts } }
  | _, _ => none

def isNameStart (c : Char) : Bool := c == '_' || isAlphabetic c

def isNamePart (c : Char) : Bool :=
  c == '_' || c == '.' || c == '[' || c == ']' || isAlphanumeric c

/-- A group with a name, which no other group has. -/
def namedGroup (p : Progress) : Reader Progress := do
  literal "?P<" <|> literal "?<"
  let first ← satisfy isNameStart
  let name := first :: (← takeWhile isNamePart)
  char '>'
  require (!p.names.contains name)
  return { p.enter p.inside.style with names := name :: p.names }

/-- Flags for the rest of the group around, or for a group of their own. -/
def flagged (p : Progress) : Reader Progress := do
  char '?'
  let flags ← takeWhile fun c => c != ':' && c != ')'
  match p.inside.style.set? flags, ← anyChar with
  | some style, ':' => return p.enter style
  | some style, _ =>
    require (!flags.isEmpty)
    return p.setStyle style
  | none, _ => failure

/-- What follows the parenthesis that opens a group. -/
def group (p : Progress) : Reader Progress := do
  skip p.inside.style
  match ← peek? with
  | some '?' => p.namedGroup <|> p.flagged
  | _ => return p.enter p.inside.style

/-- Reads one piece of a pattern outside of sets. A question mark right after a repetition belongs to
it. -/
def step (p : Progress) : Reader Progress := do
  let style := p.inside.style
  if (← peek?) == some '[' then return p.add (← bracketed style)
  match ← anyChar with
  | '(' => p.group
  | ')' => liftM p.leave?
  | '|' => return p.nextAlternative
  | '*' | '+' | '?' =>
    let _ ← optional (char '?')
    liftM p.repeat?
  | '\x7b' => failure
  | '^' | '$' => return p.add 0
  | '.' => require style.unicode; return p.add 0
  | '\\' => let _ ← escape style; return p.add 0
  | _ => require style.allowsCharacter; return p.add 0

def depthLimit : Nat := 250

/-- Reads pieces to the end of the pattern, `n` at most. All groups have to be closed. -/
def reachesEnd : Nat → Progress → List Char → Bool
  | n, p, s =>
    match n, p.inside.style.rest s with
    | _, [] => p.around.isEmpty && p.inside.height ≤ depthLimit
    | 0, _ => false
    | n + 1, s =>
      match p.step s with
      | some (p, rest) => reachesEnd n p rest
      | none => false

end Progress

/-- Each piece takes at least one character. -/
def isWellFormed (cs : List Char) : Bool := Progress.reachesEnd cs.length {} cs

/-! ### Values -/

def isExponent : List Char → Bool
  | '+' :: ds | '-' :: ds | ds => !ds.isEmpty && ds.all isDigit

/-- A decimal number without sign, with or without a point and an exponent, or a name of a value
beyond them. -/
def isNumber (cs : List Char) : Bool :=
  let (whole, rest) := cs.span isDigit
  let (fraction, rest) := match rest with
    | '.' :: rest => rest.span isDigit
    | rest => ([], rest)
  let written := !(whole.isEmpty && fraction.isEmpty) &&
    match rest with
    | [] => true
    | c :: rest => c.toLower == 'e' && isExponent rest
  written || ["inf", "infinity", "nan"].contains (String.ofList (cs.map Char.toLower))

/-- A number with a plus sign is a value, although a pattern cannot begin with that sign. -/
def isValue (cs : List Char) : Bool :=
  isWellFormed cs ||
    match cs with
    | '+' :: rest => isNumber rest
    | _ => false

end ServletFilters.CommandLine.Pattern
