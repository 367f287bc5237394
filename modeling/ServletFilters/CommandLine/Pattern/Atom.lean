import ServletFilters.Reader
import ServletFilters.Text.Digits
import ServletFilters.Text.Space

/-!
The smallest parts of a pattern: characters, and what a backslash makes of them, under the flags in
force.

No tables of characters beyond ASCII are kept. A part that needs them is refused: with `unicode` on
these are the sets of digits, white space and words, and every character when case is ignored.
-/

namespace ServletFilters.CommandLine.Pattern
open Reader Text

/-- The flags that matter to the form. With `unicode` off nothing may match a part of a character,
and with `spaced` on white space and comments are skipped. -/
structure Style where
  unicode : Bool := true
  caseless : Bool := false
  spaced : Bool := false
  deriving DecidableEq, Repr

/-- Whether a character may stand for itself. -/
def Style.allowsCharacter (style : Style) : Bool := !(style.unicode && style.caseless)

def anyChar : Reader Char := satisfy fun _ => true

def require (b : Bool) : Reader Unit := if b then pure () else failure

/-- What follows white space and comments. -/
def afterSpaces (inComment : Bool) : List Char → List Char
  | [] => []
  | c :: cs =>
    if inComment then afterSpaces (c != '\n') cs
    else if isSpace c then afterSpaces false cs
    else if c == '#' then afterSpaces true cs
    else c :: cs

def Style.rest (style : Style) (cs : List Char) : List Char :=
  if style.spaced then afterSpaces false cs else cs

def skip (style : Style) : Reader Unit := fun s => some ((), style.rest s)

/-- What a part stands for: one character, a set of characters, or a place in the text. -/
inductive Atom where
  | character (c : Char)
  | set
  | place

def hexDigits (style : Style) : Nat → Reader (List Char)
  | 0 => pure []
  | n + 1 => do
    skip style
    let d ← satisfy (isDigitOf 16)
    return d :: (← hexDigits style n)

/-- A character given by its code point. Two digits alone give an octet. -/
def codePoint (style : Style) (digits : Nat) : Reader Char := do
  match scalar? (← hexDigits style digits) with
  | some c =>
    require (style.unicode || digits != 2 || c.toNat < 0x80)
    return c
  | none => failure

/-- The character written by `c` after a backslash, and perhaps by the digits that follow. -/
def escapedChar (style : Style) (c : Char) : Reader Char :=
  match c with
  | 'x' => codePoint style 2
  | 'u' => codePoint style 4
  | 'U' => codePoint style 8
  | 'a' => pure '\x07'
  | 'f' => pure '\x0c'
  | 'n' => pure '\n'
  | 'r' => pure '\r'
  | 't' => pure '\t'
  | 'v' => pure '\x0b'
  | c => if c.toNat < 0x80 && !c.isAlphanum then pure c else failure

/-- What follows the backslash. A word boundary cannot be matched in terms of whole characters.
There are no complements of sets: they need tables, or else match octets. -/
def escape (style : Style) : Reader Atom := do
  match ← anyChar with
  | 'd' | 's' | 'w' => require (!style.unicode); return .set
  | 'b' | 'B' | '<' | '>' => require (!style.unicode); return .place
  | 'A' | 'z' => return .place
  | c =>
    require style.allowsCharacter
    return .character (← escapedChar style c)

/-- The height of parts in a row, or of alternatives: one alone adds nothing. -/
def joined : List Nat → Nat
  | [] => 0
  | [h] => h
  | hs => hs.foldl max 0 + 1

end ServletFilters.CommandLine.Pattern
