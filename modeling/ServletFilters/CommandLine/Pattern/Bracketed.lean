import ServletFilters.CommandLine.Pattern.Atom

/-!
Sets of characters in brackets: single members, ranges, named sets, sets inside, and operators
between any of these. Reading one gives its height, the depth to which its parts are nested.
-/

namespace ServletFilters.CommandLine.Pattern
open Reader Text

def setNames : List String :=
  ["alnum", "alpha", "ascii", "blank", "cntrl", "digit", "graph", "lower", "print", "punct",
    "space", "upper", "word", "xdigit"]

/-- A named set in colons, and whether its complement is meant. -/
def namedSet : Reader Bool := do
  literal "[:"
  let complement ← (char '^' *> pure true) <|> pure false
  let name ← takeWhile (· != ':')
  literal ":]"
  require (setNames.contains (String.ofList name))
  return complement

def member (style : Style) : Reader Atom := do
  let atom ← match ← anyChar with
    | '\\' => escape style
    | c => pure (.character c)
  match atom with
  | .character c => require (style.allowsCharacter && (style.unicode || c.toNat < 0x80))
  | .set => pure ()
  | .place => failure
  return atom

/-- The character that decides what a hyphen before it means. The sign that opens a comment is
passed over like white space, but the comment is not. -/
def Style.afterHyphen? (style : Style) (cs : List Char) : Option Char :=
  if style.spaced then
    match cs.dropWhile isSpace with
    | '#' :: comment => (comment.dropWhile isSpace).head?
    | rest => rest.head?
  else cs.head?

/-- Whether a hyphen comes next that stands between the ends of a range. -/
def atRange (style : Style) : Reader Bool := fun s =>
  let found := match s with
    | '-' :: cs =>
      let after := style.afterHyphen? cs
      after != some ']' && after != some '-'
    | _ => false
  some (found, s)

/-- One member of a set, or a range between two characters in order. -/
def memberOrRange (style : Style) : Reader Unit := do
  let first ← member style
  skip style
  if ← atRange style then
    char '-'
    skip style
    match first, ← member style with
    | .character a, .character b => require (a ≤ b)
    | _, _ => failure

/-- An open bracket: the height of what stands before the last operator, if there is one, and the
heights of the members after it. -/
structure OpenSet where
  left : Option Nat
  members : List Nat

namespace OpenSet

def add (s : OpenSet) (height : Nat) : OpenSet := { s with members := height :: s.members }

/-- Operators group to the left. -/
def height (s : OpenSet) : Nat :=
  match s.left with
  | none => joined s.members
  | some left => max left (joined s.members) + 1

/-- An operator joins what stands before it with what will follow. -/
def operator (s : OpenSet) : OpenSet := ⟨some s.height, []⟩

end OpenSet

/-- A bracket opens a set. A circumflex after it asks for the complement; hyphens that come next,
or else one closing bracket, stand for themselves. -/
def openSet (style : Style) : Reader OpenSet := do
  char '['
  skip style
  if (← peek?) == some '^' then
    char '^'
    require style.unicode
    skip style
  let hyphens ← many (char '-' *> skip style)
  if !hyphens.isEmpty then
    require style.allowsCharacter
    return ⟨none, hyphens.map fun _ => 0⟩
  else if (← peek?) == some ']' then
    char ']'
    require style.allowsCharacter
    return ⟨none, [0]⟩
  else return ⟨none, []⟩

def operator : Reader Unit := literal "&&" <|> literal "--" <|> literal "~~"

/-- The parts of a set up to the bracket that closes the outermost one, `n` at most. -/
def setParts (style : Style) : Nat → OpenSet → List OpenSet → Reader Nat
  | 0, _, _ => failure
  | n + 1, set, around => do
    skip style
    match ← peek? with
    | some ']' =>
      char ']'
      match around with
      | [] => return set.height + 1
      | outer :: around => setParts style n (outer.add (set.height + 1)) around
    | some '[' =>
      match ← optional namedSet with
      | some complement =>
        require (style.allowsCharacter && (style.unicode || !complement))
        setParts style n (set.add 0) around
      | none => setParts style n (← openSet style) (set :: around)
    | _ =>
      match ← optional operator with
      | some () => setParts style n set.operator around
      | none =>
        memberOrRange style
        setParts style n (set.add 0) around

/-- Each part takes at least one character. -/
def bracketed (style : Style) : Reader Nat := do
  let set ← openSet style
  setParts style (← get).length set []

end ServletFilters.CommandLine.Pattern
